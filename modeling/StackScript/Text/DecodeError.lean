import StackScript.Text.Quoted

/-! What makes a sequence of bytes unreadable as text. -/
namespace StackScript.Text

inductive DecodeFault where
  | startByte
  | continuationByte
  | endOfData
  | beyondAscii
deriving DecidableEq, Repr

def DecodeFault.reason : DecodeFault → String
  | .startByte => "invalid start byte"
  | .continuationByte => "invalid continuation byte"
  | .endOfData => "unexpected end of data"
  | .beyondAscii => "ordinal not in range(128)"

/-- The bytes from offset `start` up to but excluding `stop` cannot be read; `first` is the byte at
`start`. -/
structure DecodeError where
  codec : String
  start : Nat
  stop : Nat
  first : UInt8
  fault : DecodeFault
deriving DecidableEq, Repr

/-- A single bad byte is shown with its value, several with the offsets of the first and the last. -/
def DecodeError.span (e : DecodeError) : String :=
  if e.stop = e.start + 1 then
    "byte 0x" ++ String.ofList (hex 2 e.first.toNat) ++ " in position " ++ toString e.start
  else
    "bytes in position " ++ toString e.start ++ "-" ++ toString (e.stop - 1)

def DecodeError.message (e : DecodeError) : String :=
  "'" ++ e.codec ++ "' codec can't decode " ++ e.span ++ ": " ++ e.fault.reason

end StackScript.Text
