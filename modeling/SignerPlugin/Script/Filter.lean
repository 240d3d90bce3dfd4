import SignerPlugin.Script.Filter.Calculation
import SignerPlugin.Script.Filter.Count
import SignerPlugin.Script.Filter.Dump
import SignerPlugin.Script.Filter.Edit
import SignerPlugin.Script.Filter.Lines
import SignerPlugin.Script.Filter.Name
import SignerPlugin.Script.Filter.Order
import SignerPlugin.Script.Filter.Search
import SignerPlugin.Script.Filter.Selection

/-! The filters by their names. -/

namespace SignerPlugin.Script.Filter

def all : List (String × Filter) :=
  [("base64", base64), ("basename", basename), ("cat", cat), ("cmp", cmp), ("cut", cut),
    ("dd", dd), ("dirname", dirname), ("expr", expr), ("fold", fold), ("grep", grep),
    ("head", head), ("md5sum", digest .md5), ("nl", nl), ("od", od), ("paste", paste),
    ("rev", rev), ("sed", sed), ("seq", seq), ("sha1sum", digest .sha1),
    ("sha224sum", digest .sha224), ("sha256sum", digest .sha256), ("sha384sum", digest .sha384),
    ("sha512sum", digest .sha512), ("sort", sort), ("tac", tac), ("tail", tail), ("tr", tr),
    ("uniq", uniq), ("wc", wc)]

/-- Searching with patterns in the extended spelling, or with texts as they stand. -/
def variants : List (String × Filter) :=
  [("egrep", fun call => grep { call with arguments := ['-', 'E'] :: call.arguments }),
    ("fgrep", fun call => grep { call with arguments := ['-', 'F'] :: call.arguments })]

def ofName? (name : String) : Option Filter := (all ++ variants).lookup name

end SignerPlugin.Script.Filter
