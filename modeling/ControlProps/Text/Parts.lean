/-!
# Parts of texts

A separator cuts a text into parts, one more than it occurs.
-/

namespace ControlProps

/-- The parts between separators; `read` holds what is read of the first one, newest first. -/
def partsFrom (separator : Char) (read : List Char) : List Char → List (List Char)
  | [] => [read.reverse]
  | c :: rest =>
    if c = separator then read.reverse :: partsFrom separator [] rest
    else partsFrom separator (c :: read) rest

/-- The parts of a text between the occurrences of a separator. -/
def partsBetween (separator : Char) (text : List Char) : List (List Char) :=
  partsFrom separator [] text

end ControlProps
