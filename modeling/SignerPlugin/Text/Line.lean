/-! Line ends. -/

namespace SignerPlugin.Text

/-- The text with all its line ends made the same: a carriage return, with or without a line feed
behind it, becomes a line feed. -/
def unifyLines : List Char → List Char
  | [] => []
  | '\r' :: '\n' :: rest => '\n' :: unifyLines rest
  | '\r' :: rest => '\n' :: unifyLines rest
  | c :: rest => c :: unifyLines rest

theorem not_mem_unifyLines (text : List Char) : '\r' ∉ unifyLines text := by
  fun_induction unifyLines text with
  | case1 => simp
  | case2 rest ih => simpa using ih
  | case3 rest _ ih => simpa using ih
  | case4 c rest _ other ih =>
    simp only [List.mem_cons, not_or]
    exact ⟨fun same => other same.symm, ih⟩

end SignerPlugin.Text
