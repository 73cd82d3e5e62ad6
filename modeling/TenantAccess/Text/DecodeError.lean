import TenantAccess.Text.Digit

set_option autoImplicit false

namespace TenantAccess.Text

structure DecodeError where
  encoding : String
  position : Nat
  bytes : List UInt8
  reason : String
  deriving DecidableEq, Repr

namespace DecodeError

/-- A single byte is shown, several are told by where they stand. -/
def place (error : DecodeError) : String :=
  match error.bytes with
  | [b] => s!"byte 0x{String.ofList (hexDigits 2 b.toNat)} in position {error.position}"
  | bytes => s!"bytes in position {error.position}-{error.position + bytes.length - 1}"

def text (error : DecodeError) : String :=
  s!"'{error.encoding}' codec can't decode {error.place}: {error.reason}"

example : text ⟨"utf-8", 4, [0x0F], "truncated data"⟩
    = "'utf-8' codec can't decode byte 0x0f in position 4: truncated data" := by decide +kernel

end DecodeError

end TenantAccess.Text
