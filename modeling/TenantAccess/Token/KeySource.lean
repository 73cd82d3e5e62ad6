import TenantAccess.Json.Bytes
import TenantAccess.Token.Key

/- Where keys come from: a document that is fetched and kept for some time. An answer that is a JSON
document is kept whatever it holds; a failed fetch leaves what was kept. When a token names a key
that the kept document lacks, the document is fetched again, but not more often than a cooldown
allows. -/

set_option autoImplicit false

namespace TenantAccess.Token

/-- What a fetch of the document brings. -/
inductive Answer where
  | body (text : String)
  | status (code : Int) (reason : String)
  | unreachable (reason : String)
  | timedOut (reason : String)
  deriving DecidableEq, Repr

/-- Why no keys can be had. -/
inductive SourceProblem where
  | fetchFailed (reason : String)
  | notAnObject
  | noKeys
  | notAList
  | noUsableKeys
  | noSigningKeys
  deriving DecidableEq, Repr

def SourceProblem.text : SourceProblem → String
  | .fetchFailed reason => s!"Fail to fetch data from the url, err: \"{reason}\""
  | .notAnObject => "The JWKS endpoint did not return a JSON object"
  | .noKeys => "The JWK Set did not contain any keys"
  | .notAList => "Invalid JWK Set value"
  | .noUsableKeys =>
    "The JWK Set did not contain any usable keys. Perhaps 'cryptography' is not installed?"
  | .noSigningKeys => "The JWKS endpoint did not contain any signing keys"

/-- A lookup fails with a problem of the source, or with a fault that escapes. -/
inductive LookupFailure where
  | problem (problem : SourceProblem)
  | fault (fault : Fault)
  deriving Repr

def Answer.document : Answer → Except LookupFailure Json
  | .body text =>
    (Json.parseBytes (Text.Utf8.encode text)).mapError fun error => .fault (.ofBytes error)
  | .status code reason => .error (.problem (.fetchFailed s!"HTTP Error {code}: {reason}"))
  | .unreachable reason => .error (.problem (.fetchFailed s!"<urlopen error {reason}>"))
  | .timedOut reason => .error (.problem (.fetchFailed reason))

/-- The keys of a document that may verify signatures. -/
def signingKeys (document : Json) : Except LookupFailure (List Key) :=
  match document with
  | .object members =>
    let keys := (Table.lookup? "keys" members).getD (.array [])
    if !keys.isTruthy then .error (.problem .noKeys)
    else match keys with
      | .array entries =>
        match readEntries entries with
        | .error fault => .error (.fault fault)
        | .ok [] => .error (.problem .noUsableKeys)
        | .ok usable =>
          match usable.filter fun entry => isForSigning entry.1 with
          | [] => .error (.problem .noSigningKeys)
          | signing => .ok (signing.map fun entry => ⟨member entry.1 "kid", entry.2⟩)
      | _ => .error (.problem .notAList)
  | _ => .error (.problem .notAnObject)

/-- The key with an id; without an id, the only key there is. -/
def matchKey? (keys : List Key) (id : Option Text.Wide) : Option Key :=
  match id, keys with
  | none, [key] => some key
  | none, _ => none
  | some id, _ => keys.find? fun key => key.id.text? == some id

/-- A document and when it was fetched. -/
structure Kept where
  document : Json
  stamp : Rat
  deriving Repr

/-- What is remembered between lookups. Times are readings of a clock that never goes back. -/
structure KeyMemory where
  kept : Option Kept
  lastRefresh : Option Rat
  deriving Repr

def KeyMemory.empty : KeyMemory := ⟨none, none⟩

/-- The endpoint that publishes the document: what it answers to each fetch, counted from zero,
and how often it was asked. -/
structure Endpoint where
  answer : Nat → Answer
  fetches : Nat

def Endpoint.nextAnswer (endpoint : Endpoint) : Answer := endpoint.answer endpoint.fetches

/-- How long a document is kept, and how far apart refreshes have to be. Sums and differences of
readings are subject to the clock's rounding. -/
structure KeyPolicy where
  lifespan : Binary64
  cooldown : Binary64
  round : Rat → Rat

/-- The kept document, unless it is too old. A lifespan beyond all numbers cannot be added. -/
def KeyMemory.current (memory : KeyMemory) (policy : KeyPolicy) (now : Rat) :
    Except Fault (Option Json) :=
  match memory.kept with
  | none => .ok none
  | some kept =>
    match policy.lifespan.toRat? with
    | none => .error (.tooLarge "int too large to convert to float")
    | some lifespan =>
      .ok (if policy.round (kept.stamp + lifespan) < now then none else some kept.document)

/-- Keeps an answer that was read; a null counts as nothing to keep. -/
def KeyMemory.keep (memory : KeyMemory) (document : Json) (now : Rat) : KeyMemory :=
  match document with
  | .null => { memory with kept := none }
  | _ => { memory with kept := some ⟨document, now⟩ }

def KeyMemory.mayRefresh (memory : KeyMemory) (policy : KeyPolicy) (now : Rat) : Bool :=
  match memory.lastRefresh with
  | none => true
  | some last => !policy.cooldown.exceeds (policy.round (now - last))

def KeyMemory.noteRefresh (memory : KeyMemory) (now : Rat) : KeyMemory :=
  { memory with lastRefresh := some now }

/-- What is remembered of the keys, and where they come from. -/
structure KeySource where
  memory : KeyMemory
  endpoint : Endpoint

namespace KeySource

/-- A source that was not asked yet. -/
def start (answer : Nat → Answer) : KeySource := ⟨.empty, ⟨answer, 0⟩⟩

/-- Fetches the document, and keeps it if it can be read. -/
def fetch (source : KeySource) (now : Rat) : Except LookupFailure Json × KeySource :=
  let answered := { source.endpoint with fetches := source.endpoint.fetches + 1 }
  match source.endpoint.nextAnswer.document with
  | .ok document => (.ok document, ⟨source.memory.keep document now, answered⟩)
  | .error failure => (.error failure, ⟨source.memory, answered⟩)

def freshKeys (source : KeySource) (now : Rat) : Except LookupFailure (List Key) × KeySource :=
  let (document, source) := source.fetch now
  (document.bind signingKeys, source)

/-- The signing keys of the kept document, or else of a fresh one. -/
def keys (source : KeySource) (policy : KeyPolicy) (now : Rat) :
    Except LookupFailure (List Key) × KeySource :=
  match source.memory.current policy now with
  | .error fault => (.error (.fault fault), source)
  | .ok (some document) => (signingKeys document, source)
  | .ok none => source.freshKeys now

/-- What a lookup finds, and whether it refreshed the document. -/
structure Lookup where
  found : Except LookupFailure (Option Key)
  refreshed : Bool

/-- Looks up a key. If the keys at hand lack it they are refreshed once, as far as the cooldown
allows. -/
def find (source : KeySource) (policy : KeyPolicy) (now : Rat) (id : Option Text.Wide) :
    Lookup × KeySource :=
  match source.keys policy now with
  | (.error failure, source) => (⟨.error failure, false⟩, source)
  | (.ok keys, source) =>
    match matchKey? keys id with
    | some key => (⟨.ok (some key), false⟩, source)
    | none =>
      if source.memory.mayRefresh policy now then
        let noted := { source with memory := source.memory.noteRefresh now }
        let (keys, source) := noted.freshKeys now
        (⟨keys.map (matchKey? · id), true⟩, source)
      else (⟨.ok none, false⟩, source)

end KeySource

end TenantAccess.Token
