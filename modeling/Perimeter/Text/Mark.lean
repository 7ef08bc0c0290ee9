/-!
The mark of byte order that some editors put in front of a text. It is no part of the text.
-/

namespace Perimeter.Text

/-- A text without the mark of its byte order. -/
def withoutMark (s : String) : String :=
  match s.toList with
  | '\uFEFF' :: rest => String.ofList rest
  | _ => s

end Perimeter.Text
