import ChangeFeed.Json.Read

/-!
# JSON: Decoding

A decoder turns a document into a value of a type. It goes through the document in order and stops
at the first problem. A problem in a text is given the place that the reader of the text has
reached; one in a value that is not part of a text has no place.
-/

namespace ChangeFeed.Json

/-! ## Origins and problems -/

/-- Where a document comes from. -/
inductive Origin where
  /-- A text that is being read. -/
  | text
  | value
  /-- A part of a text or value that was set aside until its type was known. -/
  | aside
  deriving DecidableEq, Repr

/-- A problem, and the place in the text where it was noticed. -/
structure Refusal where
  problem : Problem
  place : Option Nat

abbrev Decoded (α : Type) := Except Refusal α

abbrev Decode (α : Type) := Origin → Doc → Decoded α

/-- A problem without a place. -/
def refuse {α : Type} (p : Problem) : Decoded α := .error ⟨p, none⟩

def refuseAt {α : Type} (o : Origin) (place : Nat) (p : Problem) : Decoded α :=
  .error ⟨p, if o = .text then some place else none⟩

def faulty {α : Type} (f : Fault) : Decoded α := .error ⟨.malformed f.kind, some f.place⟩

/-- Gives a problem without a place the one that was reached. -/
def placed {α : Type} (o : Origin) (place : Nat) (r : Decoded α) : Decoded α :=
  match r with
  | .ok a => .ok a
  | .error e =>
    if o = .text && e.place.isNone && !e.problem.isPlaced then .error ⟨e.problem, some place⟩
    else .error e

/-- The document is not of the expected kind. -/
def mismatch {α : Type} (expected : String) : Decode α := fun o d =>
  match d with
  | .leaf v _ behind => refuseAt o behind (.wrongType (.ofJson v) expected)
  | .unfit fault _ => faulty fault
  | .broken fault _ => faulty fault
  | .array _ opening .. => refuseAt o opening (.wrongType .sequence expected)
  | .object _ opening .. => refuseAt o opening (.wrongType .map expected)

/-- The document is not of the expected kind, which is noticed inside its brackets. -/
def mismatchInside {α : Type} (expected : String) : Decode α := fun o d =>
  match d with
  | .array (some fault) .. => faulty fault
  | .object (some fault) .. => faulty fault
  | .array none _ first .. => refuseAt o first (.wrongType .sequence expected)
  | .object none _ first .. => refuseAt o first (.wrongType .map expected)
  | d => mismatch expected o d

/-- Goes on behind the last part of an array or object. -/
def Ending.reached {α : Type} (e : Ending) (next : (behind : Nat) → Decoded α) : Decoded α :=
  match e with
  | .closed behind => next behind
  | .broken fault _ => faulty fault

/-- Goes on unless values are nested too deeply. -/
def unlessTooDeep {α : Type} (tooDeep : Option Fault) (next : Decoded α) : Decoded α :=
  match tooDeep with
  | some fault => faulty fault
  | none => next

/-! ## Passing over values -/

mutual

/-- Passes over a value; only what no reader can pass over is a fault. -/
def skip : Doc → Decoded Unit
  | .leaf .. => .ok ()
  | .unfit _ _ => .ok ()
  | .broken _ ignored => faulty ignored
  | .array _ _ _ items ending => skipItems items ending
  | .object _ _ _ members ending => skipMembers members ending

/-- Passes over items. -/
def skipItems : List (Nat × Nat × Doc) → Ending → Decoded Unit
  | [], .closed _ => .ok ()
  | [], .broken _ ignored => faulty ignored
  | (_, _, d) :: rest, ending =>
    match skip d with
    | .ok _ => skipItems rest ending
    | .error e => .error e

/-- Passes over members. -/
def skipMembers : List (Except Fault String × Nat × Nat × Doc) → Ending → Decoded Unit
  | [], .closed _ => .ok ()
  | [], .broken _ ignored => faulty ignored
  | (_, _, _, d) :: rest, ending =>
    match skip d with
    | .ok _ => skipMembers rest ending
    | .error e => .error e

end

/-! ## Any value -/

def withEntry {α : Type} (m : SortedMap α) (key : String) (a : α) : SortedMap α := m.insert key a

mutual

def anyValue : Doc → Decoded Json
  | .leaf v _ _ => .ok v
  | .unfit fault _ => faulty fault
  | .broken fault _ => faulty fault
  | .array tooDeep _ _ items ending =>
    unlessTooDeep tooDeep do
      let vs ← anyItems items ending
      return .array vs
  | .object tooDeep _ _ members ending =>
    unlessTooDeep tooDeep do
      let m ← anyMembers members ending .empty
      return .object m.entries

def anyItems : List (Nat × Nat × Doc) → Ending → Decoded (List Json)
  | [], .closed _ => .ok []
  | [], .broken fault _ => faulty fault
  | (_, _, d) :: rest, ending => do
    let v ← anyValue d
    let vs ← anyItems rest ending
    return v :: vs

def anyMembers : List (Except Fault String × Nat × Nat × Doc) → Ending → SortedMap Json →
    Decoded (SortedMap Json)
  | [], .closed _, m => .ok m
  | [], .broken fault _, _ => faulty fault
  | (.error fault, _, _, _) :: _, _, _ => faulty fault
  | (.ok key, _, _, d) :: rest, ending, m => do
    let v ← anyValue d
    anyMembers rest ending (withEntry m key v)

end

def decodeAny : Decode Json := fun _ d => anyValue d

/-- Looks through a value that is set aside. -/
def setAside (d : Doc) : Decoded Unit := do
  let _ ← anyValue d

/-! ## Scalars -/

def decodeString : Decode String := fun o d =>
  match d with
  | .leaf (.string s) _ _ => .ok s
  | d => mismatch "a string" o d

def decodeBool : Decode Bool := fun o d =>
  match d with
  | .leaf (.bool b) _ _ => .ok b
  | d => mismatch "a boolean" o d

/-- Decodes an integer between two bounds. -/
def decodeInt (typeName : String) (low high : Int) : Decode Int := fun o d =>
  match d with
  | .leaf (.int n) _ behind =>
    if low ≤ n && n ≤ high then .ok n
    else refuseAt o behind (.wrongValue (.int n) typeName)
  | d => mismatch typeName o d

/-- Decodes a natural number below a bound. -/
def decodeNat (typeName : String) (bound : Nat) : Decode Nat := fun o d =>
  Int.toNat <$> decodeInt typeName 0 (bound - 1) o d

/-- Decodes a signed integer of 64 bits. -/
def decodeInt64 : Decode Int64 := fun o d =>
  Int64.ofInt <$> decodeInt "i64" Int64.minValue.toInt Int64.maxValue.toInt o d

/-- Decodes a signed integer of 32 bits. -/
def decodeInt32 : Decode Int32 := fun o d =>
  Int32.ofInt <$> decodeInt "i32" Int32.minValue.toInt Int32.maxValue.toInt o d

def decodeByte : Decode UInt8 := fun o d => UInt8.ofNat <$> decodeNat "u8" UInt8.size o d

/-- Decodes an unsigned integer of 16 bits. -/
def decodeUInt16 : Decode UInt16 := fun o d => UInt16.ofNat <$> decodeNat "u16" UInt16.size o d

/-- Decodes an unsigned integer of 32 bits. -/
def decodeUInt32 : Decode UInt32 := fun o d => UInt32.ofNat <$> decodeNat "u32" UInt32.size o d

/-- Decodes an unsigned integer of 64 bits. -/
def decodeUInt64 : Decode UInt64 := fun o d => UInt64.ofNat <$> decodeNat "u64" UInt64.size o d

def decodeSize : Decode Nat := decodeNat "usize" UInt64.size

def decodeFloat : Decode Binary64 := fun o d =>
  match d with
  | .leaf (.int n) _ _ => .ok (.ofInt n)
  | .leaf (.float x) _ _ => .ok x
  | d => mismatch "f64" o d

/-- Decodes a value that may be null. -/
def decodeOption {α : Type} (decode : Decode α) : Decode (Option α) := fun o d =>
  match d with
  | .leaf .null _ _ => .ok none
  | d => some <$> decode o d

def decodeAs {α β : Type} (f : α → β) (decode : Decode α) : Decode β := fun o d => f <$> decode o d

/-- A decoder followed by a check of its own. -/
def decodeThen {α β : Type} (decode : Decode α) (check : α → Decoded β) : Decode β := fun o d => do
  let a ← decode o d
  check a

/-! ## Lists and maps -/

def listItems {α : Type} (decode : Decode α) (o : Origin) :
    List (Nat × Nat × Doc) → Ending → Decoded (List α)
  | [], ending => ending.reached fun _ => .ok []
  | (_, after, d) :: rest, ending => do
    let a ← placed o after (decode o d)
    let as ← listItems decode o rest ending
    return a :: as

def decodeList {α : Type} (decode : Decode α) : Decode (List α) := fun o d =>
  match d with
  | .array tooDeep _ _ items ending => unlessTooDeep tooDeep (listItems decode o items ending)
  | d => mismatch "a sequence" o d

/-- Decodes members one after the other; of two with one key the later counts. -/
def mapMembers {α : Type} (decode : Decode α) (o : Origin) :
    List (Except Fault String × Nat × Nat × Doc) → Ending → SortedMap α → Decoded (SortedMap α)
  | [], ending, m => ending.reached fun _ => .ok m
  | (.error fault, _, _, _) :: _, _, _ => faulty fault
  | (.ok key, _, after, d) :: rest, ending, m => do
    let a ← placed o after (decode o d)
    mapMembers decode o rest ending (withEntry m key a)

def decodeMap {α : Type} (decode : Decode α) : Decode (SortedMap α) := fun o d =>
  match d with
  | .object tooDeep _ _ members ending =>
    unlessTooDeep tooDeep (mapMembers decode o members ending .empty)
  | d => mismatch "a map" o d

/-! ## Records -/

/-- Items that are read one at a time. -/
structure Items where
  items : List (Nat × Nat × Doc)
  ending : Ending

def Items.next? {α : Type} (decode : Decode α) (o : Origin) (i : Items) :
    Decoded (Option (α × Items)) :=
  match i.items with
  | [] => i.ending.reached fun _ => .ok none
  | (_, after, d) :: rest => do
    let a ← placed o after (decode o d)
    return some (a, ⟨rest, i.ending⟩)

/-- The fields of a record: how each is decoded, and how the record is made of them. A record is
written as an object, or as an array of its fields in order. -/
structure Fields (α : Type) where
  /-- What has been read so far. -/
  State : Type
  start : State
  count : Nat
  has : String → Bool
  seen : String → State → Bool
  read : Origin → String → Doc → State → Decoded State
  /-- The record, when no more is to be read. -/
  finish : State → Decoded α
  /-- Reads the fields in order. The number counts the fields before, and the text names what is
  read. -/
  inOrder : Origin → Nat → String → Items → Decoded (α × Items)

namespace Fields

variable {α β : Type}

protected def pure (a : α) : Fields α where
  State := Unit
  start := ()
  count := 0
  has _ := false
  seen _ _ := false
  read _ _ _ s := .ok s
  finish _ := .ok a
  inOrder _ _ _ items := .ok (a, items)

/-- One field; `absent` stands for it when it is missing. -/
def field (name : String) (decode : Decode α) (absent : Option α) (orderly : Bool) : Fields α where
  State := Option α
  start := none
  count := 1
  has key := key = name
  seen _ s := s.isSome
  read o _ d _ := some <$> decode o d
  finish s :=
    match s.or absent with
    | some a => .ok a
    | none => refuse (.missingField name)
  inOrder o index expected items := do
    match ← items.next? decode o with
    | some r => return r
    | none =>
      match if orderly then absent else none with
      | some a => return (a, items)
      | none => refuse (.wrongLength index expected)

/-- A field that must be there. -/
def required (name : String) (decode : Decode α) : Fields α := field name decode none false

/-- A field that has a value of its own when it is missing. -/
def withDefault (name : String) (decode : Decode α) (absent : α) : Fields α :=
  field name decode (some absent) true

/-- A field that may be missing or null. -/
def optional (name : String) (decode : Decode α) : Fields (Option α) :=
  withDefault name (decodeOption decode) none

/-- The fields of two parts. -/
protected def apply (f : Fields (α → β)) (x : Fields α) : Fields β where
  State := f.State × x.State
  start := (f.start, x.start)
  count := f.count + x.count
  has key := f.has key || x.has key
  seen key s := if f.has key then f.seen key s.1 else x.seen key s.2
  read o key d s :=
    if f.has key then (·, s.2) <$> f.read o key d s.1 else (s.1, ·) <$> x.read o key d s.2
  finish s := do
    let g ← f.finish s.1
    let a ← x.finish s.2
    return g a
  inOrder o index expected items := do
    let (g, items) ← f.inOrder o index expected items
    let (a, items) ← x.inOrder o (index + f.count) expected items
    return (g a, items)

instance : Applicative Fields where
  pure := Fields.pure
  seq f x := Fields.apply f (x ())

def members (f : Fields α) (o : Origin) :
    List (Except Fault String × Nat × Nat × Doc) → Ending → f.State → Decoded α
  | [], ending, s => ending.reached fun behind => placed o behind (f.finish s)
  | (.error fault, _, _, _) :: _, _, _ => faulty fault
  | (.ok key, atKey, after, d) :: rest, ending, s =>
    if f.has key then
      if f.seen key s then refuseAt o atKey (.duplicateField key)
      else do
        let s ← placed o after (f.read o key d s)
        f.members o rest ending s
    else do
      let _ ← placed o after (skip d)
      f.members o rest ending s

/-- What a reader finds that expects the end of an array. -/
def Malformed.atEnd : Malformed → Malformed
  | .expectedListEnd => .trailingCharacters
  | .endInValue => .trailingCharacters
  | m => m

/-- Nothing follows the last field of an array. -/
def exhausted (o : Origin) (total : Nat) (i : Items) : Decoded Unit :=
  match i.items, i.ending with
  | [], .closed _ => .ok ()
  | [], .broken fault _ => faulty ⟨Malformed.atEnd fault.kind, fault.place⟩
  | (start, _, _) :: _, _ =>
    match o with
    | .text => faulty ⟨.trailingCharacters, start + 1⟩
    | .value => refuse (.wrongLength total "fewer elements in array")
    | .aside =>
      let read := total - i.items.length
      refuse (.wrongLength total
        (toString read ++ if read = 1 then " element in sequence" else " elements in sequence"))

/-- How a message counts the fields. -/
def elements (n : Nat) : String := toString n ++ if n = 1 then " element" else " elements"

def decode (typeName : String) (f : Fields α) : Decode α := fun o d =>
  match d with
  | .object tooDeep _ _ members ending => unlessTooDeep tooDeep (f.members o members ending f.start)
  | .array tooDeep _ first items ending =>
    unlessTooDeep tooDeep do
      let behind :=
        match ending with
        | .closed behind => behind
        | .broken _ _ => first
      let (a, rest) ←
        placed o behind (f.inOrder o 0 (typeName ++ " with " ++ elements f.count) ⟨items, ending⟩)
      exhausted o items.length rest
      return a
  | d => mismatch typeName o d

end Fields

/-! ## Alternatives -/

def decodeName {α : Type} (known : List (String × α)) (o : Origin) (place : Nat) (name : String) :
    Decoded α :=
  match known.lookup name with
  | some a => .ok a
  | none => refuseAt o place (.unknownVariant name (known.map Prod.fst))

/-- Decodes the name of an alternative without content. It may also be the only key of an object
with the value null. -/
def decodeAlternative {α : Type} (known : List (String × α)) : Decode α := fun o d =>
  match d with
  | .leaf (.string s) _ behind => decodeName known o behind s
  | .object tooDeep _ first members ending =>
    unlessTooDeep tooDeep
      (match members with
      | (.error fault, _, _, _) :: _ => faulty fault
      | (.ok key, atKey, after, d) :: rest =>
        if o ≠ .text && !rest.isEmpty then
          refuse (.wrongValue .map "map with a single key")
        else do
          let a ← decodeName known o atKey key
          match d with
          | .leaf .null _ _ =>
            if !rest.isEmpty then faulty ⟨.expectedValue, after⟩
            else ending.reached fun _ => .ok a
          | d => placed o after (mismatch "unit" o d)
      | [] =>
        if o = .text then
          ending.reached fun _ => faulty ⟨.expectedValue, first⟩
        else refuse (.wrongValue .map "map with a single key"))
  | d =>
    if o = .text then
      match d with
      | .broken fault _ => faulty fault
      | .unfit fault start =>
        -- A text is looked at before it is refused, a number is not.
        if fault.kind = .numberOutOfRange then faulty ⟨.expectedValue, start + 1⟩ else faulty fault
      | .leaf _ start _ => faulty ⟨.expectedValue, start + 1⟩
      | .array _ opening .. => faulty ⟨.expectedValue, opening + 1⟩
      | .object _ opening .. => faulty ⟨.expectedValue, opening + 1⟩
    else mismatch "string or map" o d

/-- Decodes the name of an alternative as the value of a tag. In a value that was set aside it may
also be a number. -/
def decodeTag {α : Type} (known : List (String × α)) : Decode α := fun o d =>
  match d with
  | .leaf (.string s) _ behind => decodeName known o behind s
  | .leaf (.int n) _ behind =>
    if o = .aside && 0 ≤ n then
      match known[n.toNat]? with
      | some (_, a) => .ok a
      | none =>
        refuse (.wrongValue (.int n) ("variant index 0 <= i < " ++ toString known.length))
    else refuseAt o behind (.wrongType (.int n) "variant identifier")
  | d => mismatch "variant identifier" o d

/-- The content of an alternative. -/
inductive Content (α : Type) where
  /-- An alternative without content. -/
  | unit (a : α)
  | content (decode : Decode α)

def Content.decode {α : Type} (unitName : String) : Content α → Decode α
  | .unit a, o, d =>
    match d with
    | .leaf .null _ _ => .ok a
    | d => mismatchInside unitName o d
  | .content decode, o, d => decode o d

/-! ### A tag beside the content -/

/-- The names under which an alternative is written. -/
structure Beside where
  typeName : String
  tag : String
  content : String

/-- The first of the members that is the tag or the content; what stands before it is passed over.
-/
def relevant (b : Beside) (o : Origin) :
    List (Except Fault String × Nat × Nat × Doc) → Ending →
    Decoded (Option (Bool × Nat × Nat × Doc × List (Except Fault String × Nat × Nat × Doc)))
  | [], ending => ending.reached fun _ => .ok none
  | (.error fault, _, _, _) :: _, _ => faulty fault
  | (.ok key, atKey, after, d) :: rest, ending =>
    if key = b.tag then .ok (some (true, atKey, after, d, rest))
    else if key = b.content then .ok (some (false, atKey, after, d, rest))
    else do
      let _ ← placed o after (skip d)
      relevant b o rest ending

/-- Neither the tag nor the content is written twice. -/
def nothingRelevant {α : Type} (b : Beside) (o : Origin)
    (rest : List (Except Fault String × Nat × Nat × Doc)) (ending : Ending) (a : α) :
    Decoded α := do
  match ← relevant b o rest ending with
  | some (isTag, atKey, _) =>
    refuseAt o atKey (.duplicateField (if isTag then b.tag else b.content))
  | none => return a

/-- The alternative with the given tag, when no content is written. -/
def withoutContent {α : Type} (b : Beside) : Content α → Decoded α
  | .unit a => .ok a
  | .content _ => refuse (.missingField b.content)

/-- How a message names an alternative without content. -/
def unitName (b : Beside) (name : String) : String :=
  "unit variant " ++ b.typeName ++ "::" ++ name

/-- Decodes a tag with the members of an object behind it. -/
def besideMembers {α : Type} (b : Beside) (known : List (String × String × Content α))
    (o : Origin) (members : List (Except Fault String × Nat × Nat × Doc)) (ending : Ending) :
    Decoded α := do
  let behind :=
    match ending with
    | .closed behind => behind
    | .broken fault _ => fault.place
  match ← relevant b o members ending with
  | none => refuseAt o behind (.missingField b.tag)
  | some (true, _, after, tag, rest) =>
    let (name, c) ← placed o after (decodeAlternative known o tag)
    match ← relevant b o rest ending with
    | some (true, atKey, _) => refuseAt o atKey (.duplicateField b.tag)
    | some (false, _, after, d, rest) =>
      let a ← placed o after (c.decode (unitName b name) o d)
      nothingRelevant b o rest ending a
    | none => placed o behind (withoutContent b c)
  | some (false, _, after, content, rest) =>
    placed o after (setAside content)
    match ← relevant b o rest ending with
    | some (false, atKey, _) => refuseAt o atKey (.duplicateField b.content)
    | some (true, _, after, tag, rest) =>
      let (name, c) ← placed o after (decodeAlternative known o tag)
      let a ← placed o after (c.decode (unitName b name) .aside content)
      nothingRelevant b o rest ending a
    | none => refuseAt o behind (.missingField b.tag)

/-- Decodes an alternative whose tag and content are two members of an object, or the two items of
an array. Every known tag has the name of its alternative and the content. -/
def decodeBeside {α : Type} (b : Beside) (known : List (String × String × Content α)) :
    Decode α := fun o d =>
  let expected := "adjacently tagged enum " ++ b.typeName
  match d with
  | .object tooDeep _ _ members ending =>
    unlessTooDeep tooDeep (besideMembers b known o members ending)
  | .array tooDeep _ first items ending =>
    unlessTooDeep tooDeep do
      let behind :=
        match ending with
        | .closed behind => behind
        | .broken _ _ => first
      let read : Decoded (α × Items) := do
        match ← Items.next? (decodeAlternative known) o ⟨items, ending⟩ with
        | none => refuse (.wrongLength 0 expected)
        | some ((name, c), rest) =>
          match ← rest.next? (c.decode (unitName b name)) o with
          | none => refuse (.wrongLength 1 expected)
          | some r => return r
      let (a, rest) ← placed o behind read
      Fields.exhausted o items.length rest
      return a
  | d => mismatch expected o d

/-! ### A tag within the content -/

/-- The tag among members, and the other members. -/
def splitTag {α : Type} (tag : String) (decode : Decode α) (o : Origin) :
    List (Except Fault String × Nat × Nat × Doc) → Ending → Option α →
    Decoded (α × List (Except Fault String × Nat × Nat × Doc))
  | [], ending, found =>
    ending.reached fun behind =>
      match found with
      | some a => .ok (a, [])
      | none => refuseAt o behind (.missingField tag)
  | (.error fault, _, _, _) :: _, _, _ => faulty fault
  | (.ok key, atKey, after, d) :: rest, ending, found =>
    if key = tag then
      if found.isSome then refuseAt o atKey (.duplicateField tag)
      else do
        let a ← placed o after (decode o d)
        splitTag tag decode o rest ending (some a)
    else do
      placed o after (setAside d)
      let (a, others) ← splitTag tag decode o rest ending found
      return (a, (.ok key, atKey, after, d) :: others)

/-- Looks through items that are set aside. -/
def setItemsAside : List (Nat × Nat × Doc) → Ending → Decoded Unit
  | [], ending => ending.reached fun _ => .ok ()
  | (_, _, d) :: rest, ending => do
    setAside d
    setItemsAside rest ending

/-- Decodes an alternative whose tag is one of the members of its content, or the first item of an
array. -/
def decodeWithin {α : Type} (typeName tag : String) (known : List (String × Decode α)) :
    Decode α := fun o d =>
  match d with
  | .object tooDeep opening first members ending =>
    unlessTooDeep tooDeep do
      let (decode, others) ← splitTag tag (decodeTag known) o members ending none
      decode .aside (.object none opening first others (.closed 0))
  | .array tooDeep opening first items ending =>
    unlessTooDeep tooDeep do
      match ← Items.next? (decodeTag known) o ⟨items, ending⟩ with
      | none =>
        match ending with
        | .closed behind => refuseAt o behind (.missingField tag)
        | .broken fault _ => faulty fault
      | some (decode, rest) =>
        setItemsAside rest.items rest.ending
        decode .aside (.array none opening first rest.items (.closed 0))
  | d => mismatch ("internally tagged enum " ++ typeName) o d

/-- Decodes an alternative without content behind its tag; other members are passed over, but an
array must have no other items. -/
def decodeUnit {α : Type} (unitName : String) (a : α) : Decode α := fun o d =>
  match d with
  | .object .. => .ok a
  | .array _ _ _ items _ =>
    if items.isEmpty then .ok a
    else refuse (.wrongLength items.length "0 elements in sequence")
  | d => mismatch unitName o d

/-! ### The first that fits -/

/-- Decodes the first of several kinds that fits. -/
def decodeFirst {α : Type} (typeName : String) (kinds : List (Decode α)) : Decode α := fun _ d =>
  match setAside d with
  | .error e => .error e
  | .ok _ =>
    match kinds.findSome? fun decode => (decode .aside d).toOption with
    | some a => .ok a
    | none =>
      refuse (.other ("data did not match any variant of untagged enum " ++ typeName) false)

/-! ## Whole texts and values -/

def decodeValue {α : Type} (decode : Decode α) (v : Json) : Except Error α :=
  match decode .value (.ofJson v) with
  | .ok a => .ok a
  | .error e => .error ⟨e.problem, none⟩

/-- A refusal with its place as line and column. -/
def Refusal.within (text : List Symbol) (e : Refusal) : Error :=
  ⟨e.problem, e.place.map (placeIn text)⟩

def decodeSymbols {α : Type} (decode : Decode α) (text : List Symbol) : Except Error α :=
  let document := readDocument text
  match decode .text document.doc with
  | .error e => .error (e.within text)
  | .ok a =>
    match document.trailing with
    | some fault => .error ⟨.malformed fault.kind, some (placeIn text fault.place)⟩
    | none => .ok a

def decodeText {α : Type} (decode : Decode α) (text : String) : Except Error α :=
  decodeSymbols decode (symbolsOf text)

def parse (text : String) : Except Error Json := decodeText decodeAny text

end ChangeFeed.Json
