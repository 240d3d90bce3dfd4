import SignerPlugin.Script.Filter.Basic

/-! The parts of the names of files. -/

namespace SignerPlugin.Script.Filter

def basename : Filter :=
  withArguments { valued := "s", flags := "az" } fun _ arguments =>
    let strip (ending : Letters) (path : Letters) : Letters :=
      let trimmed := (path.reverse.dropWhile (· = '/')).reverse
      let name := if trimmed.isEmpty &&
        !path.isEmpty then ['/'] else (trimmed.reverse.takeWhile (· ≠ '/')).reverse
      if ending.isSuffixOf name && ending.length < name.length then name.take
        (name.length - ending.length) else name
    match arguments.value? 's', arguments.has 'a', arguments.operands with
    | some ending, _, names => { output := Letters.ofLines (names.map (strip ending)) }
    | none, true, names => { output := Letters.ofLines (names.map (strip [])) }
    | none, false, [path] => { output := strip [] path ++ ['\n'] }
    | none, false, [path, ending] => { output := strip ending path ++ ['\n'] }
    | none, false, _ => refusal

def dirname : Filter :=
  withArguments {} fun _ arguments =>
    let parent (path : Letters) : Letters :=
      let trimmed := (path.reverse.dropWhile (· = '/'))
      let above := trimmed.dropWhile (· ≠ '/')
      if trimmed.isEmpty then if path.isEmpty then ['.'] else ['/']
      else if above.isEmpty then ['.']
      else
        let above := above.dropWhile (· = '/')
        if above.isEmpty then ['/'] else above.reverse
    if arguments.operands.isEmpty then refusal
    else { output := Letters.ofLines (arguments.operands.map parent) }

end SignerPlugin.Script.Filter
