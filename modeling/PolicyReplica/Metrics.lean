import PolicyReplica.Text.Order

/-
Samples of the metrics.

A sample is one line of the text format: a name, labels in braces, and a value.
A counter with labels has a sample for each combination of labels that was ever
counted; a counter without labels always has one.
-/

namespace PolicyReplica

structure Sample where
  name : String
  labels : List (String × String)
  value : Nat
  deriving DecidableEq, Repr

namespace Sample

def escape (text : String) : List Char :=
  text.toList.flatMap fun c =>
    if c = '\\' then ['\\', '\\']
    else if c = '"' then ['\\', '"']
    else if c = '\n' then ['\\', 'n']
    else [c]

def renderLabel (label : String × String) : List Char :=
  label.1.toList ++ ['=', '"'] ++ escape label.2 ++ ['"']

def renderLabels : List (String × String) → List Char
  | [] => []
  | labels => '\x7b' :: [','].intercalate (labels.map renderLabel) ++ ['\x7d']

/-- The line of a sample; a scope goes before the name. -/
def render (scope : Option String) (sample : Sample) : String :=
  let name := match scope with
    | none => sample.name
    | some scope => scope ++ "_" ++ sample.name
  name ++ String.ofList (renderLabels sample.labels) ++ " " ++ toString sample.value

def renderAll (scope : Option String) (samples : List Sample) : List String :=
  Text.sorted (samples.map (render scope))

end Sample

end PolicyReplica
