/-! Integers that fit into a machine word. -/

namespace SignerPlugin.Numeric

/-- Whether 64 bits hold an integer, one of them its sign. -/
def fits64 (n : Int) : Bool := -0x8000000000000000 ≤ n && n < 0x8000000000000000

end SignerPlugin.Numeric
