import TenantAccess.Text.Digit
import TenantAccess.Time.Calendar

set_option autoImplicit false

namespace TenantAccess.Time

abbrev Instant : Type := Int

def millisecond : Int := 1000
def second : Int := 1000000
def minute : Int := 60 * second
def hour : Int := 60 * minute
def day : Int := 24 * hour

/-- A wall clock's reading as if it were universal time, and the clock's offset. -/
structure Timestamp where
  wall : Instant
  offset : Option Int
  deriving DecidableEq, Repr, Inhabited

def Timestamp.instant (timestamp : Timestamp) : Instant :=
  timestamp.wall - timestamp.offset.getD 0

/-- Takes a clock without a known offset to show universal time. -/
def Timestamp.assumeUniversal (timestamp : Timestamp) : Timestamp :=
  { timestamp with offset := some (timestamp.offset.getD 0) }

def digits (width : Nat) (value : Nat) : String :=
  let text := Text.decimalDigits value
  String.ofList (List.replicate (width - text.length) '0' ++ text)

def secondsText (sinceMinute : Int) : String :=
  let fraction := sinceMinute % second
  digits 2 (sinceMinute / second).toNat
    ++ if fraction = 0 then "" else "." ++ digits 6 fraction.toNat

def wallText (wall : Instant) : String :=
  let days := wall.fdiv day
  let time := wall - days * day
  let date := Date.ofDays days
  digits 4 date.year.toNat ++ "-" ++ digits 2 date.month ++ "-" ++ digits 2 date.day ++ "T"
    ++ digits 2 (time / hour).toNat ++ ":" ++ digits 2 (time % hour / minute).toNat ++ ":"
    ++ secondsText (time % minute)

def offsetText (offset : Int) : String :=
  let size : Int := offset.natAbs
  (if offset < 0 then "-" else "+") ++ digits 2 (size / hour).toNat ++ ":"
    ++ digits 2 (size % hour / minute).toNat
    ++ if size % minute = 0 then "" else ":" ++ secondsText (size % minute)

def Timestamp.text (timestamp : Timestamp) : String :=
  wallText timestamp.wall ++ timestamp.offset.elim "" offsetText

def universalText (instant : Instant) : String := Timestamp.text ⟨instant, some 0⟩

end TenantAccess.Time
