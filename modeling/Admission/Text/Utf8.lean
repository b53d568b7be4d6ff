/-!
What a file of text holds: characters in UTF-8, and bytes that belong to none. Only a text that is
between quotes may hold such bytes, and only where nobody reads it.
-/

namespace Admission.Text

/-- A character of a file, or a byte that is part of none. -/
abbrev Symbol := Option Char

/-- The symbols of a file from a place on. -/
def symbolsFrom (content : ByteArray) (place : Nat) : List Symbol :=
  if place < content.size then
    match content.utf8DecodeChar? place with
    | some c => some c :: symbolsFrom content (place + c.utf8Size)
    | none => none :: symbolsFrom content (place + 1)
  else []
termination_by content.size - place
decreasing_by
  · have := c.utf8Size_pos
    omega
  · omega

/-- The symbols of a file. One that is a text throughout has the characters of the text. -/
def symbols (content : ByteArray) : List Symbol :=
  match String.fromUTF8? content with
  | some text => text.toList.map some
  | none => symbolsFrom content 0

end Admission.Text
