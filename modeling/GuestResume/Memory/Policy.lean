import GuestResume.Text.Blank

/-! What to do when a page is bound where another one is bound already. -/

namespace GuestResume

/-- Either the new page is refused, or it takes the place of the old one. -/
inductive BindingPolicy where
  | reject
  | replace
  deriving DecidableEq

namespace BindingPolicy

def name : BindingPolicy → String
  | reject => "reject"
  | replace => "replace"

/-- Reads a policy's name in any case with blanks around it. The error says what was found. -/
def ofText (text : String) : Except String BindingPolicy :=
  let word := String.ofList ((Text.trim text.toList).map Char.toLower)
  if word = "reject" then .ok reject
  else if word = "replace" then .ok replace
  else .error ("expected `reject` or `replace`, got `" ++ word ++ "`")

end BindingPolicy

end GuestResume
