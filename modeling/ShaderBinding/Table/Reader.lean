import ShaderBinding.Json.Ignored
import ShaderBinding.Table

/-! Reading a table. A record is an object, whose unknown members are passed over, or a sequence of
its four fields. -/

namespace ShaderBinding

/-- The members of a record read so far, the last one first. -/
abbrev Members := List (Stage × Option String)

namespace Members

def has (members : Members) (stage : Stage) : Bool := members.any (fun member => member.1 == stage)

/-- The record with these members; a stage without a member has no symbol. -/
def record (members : Members) : Record :=
  Record.ofFields fun stage => (members.lookup stage).join

end Members

namespace Reader

/-- Names the value ahead, which has the wrong shape; lists and objects are not read. -/
def found (b : UInt8) : Reader Found := do
  if b = byte 'n' then leaf .null ['u', 'l', 'l']
  else if b = byte 't' then leaf (.boolean true) ['r', 'u', 'e']
  else if b = byte 'f' then leaf (.boolean false) ['a', 'l', 's', 'e']
  else if b = byte '-' then do
    eat
    .number <$> number true
  else if isDigit b then .number <$> number false
  else if b = byte '"' then do
    eat
    .string <$> string
  else if b = byte '[' then pure .sequence
  else if b = byte '{' then pure .map
  else refuseNext .expectedValue
where
  leaf (value : Found) (rest : List Char) : Reader Found := do
    eat
    word rest
    pure value

def refuseShape {α : Type} (expected : Expected) (b : UInt8) : Reader α := do
  let found ← found b
  mismatch (.invalidType found expected)

def symbol : Reader (Option String) := do
  match ← token with
  | none => refuseNext (.endOfInput .value)
  | some b =>
    if b = byte 'n' then do
      eat
      word ['u', 'l', 'l']
      pure none
    else if b = byte '"' then do
      eat
      some <$> string
    else refuseShape .string b

/-- The next member of a record. A stage may be named once. -/
def memberTurn : Bool × Members → Reader (Turn (Bool × Members) (Except SchemaCause Members))
  | (first, members) => do
    if ← hasMember first then do
      eat
      let key ← string
      match Stage.ofName? key with
      | some stage =>
        if Members.has members stage then pure (.stop (.error (.duplicateField stage)))
        else do
          colon
          let value ← symbol
          pure (.again (false, (stage, value) :: members))
      | none => do
        colon
        skipValue
        pure (.again (false, members))
    else pure (.stop (.ok members))

def members : Reader (Except SchemaCause Members) := loop memberTurn (true, [])

/-- The fields of a record written as a sequence, one for each of the stages. -/
def fields (read : Nat) : List Stage → Members → Reader (Except SchemaCause Members)
  | [], members => pure (.ok members)
  | stage :: rest, members => do
    if ← hasElement (read == 0) then do
      let value ← symbol
      fields (read + 1) rest ((stage, value) :: members)
    else pure (.error (.invalidLength read))

def record : Reader Record := do
  let b ← valueStart
  if b = byte '{' then Members.record <$> enclosed objectEnd members
  else if b = byte '[' then Members.record <$> enclosed listEnd (fields 0 Stage.all [])
  else refuseShape .record b

def recordTurn (records : List Record) : Reader (Turn (List Record) (List Record)) := do
  if ← hasElement records.isEmpty then do
    let record ← record
    pure (.again (record :: records))
  else pure (.stop records)

def records : Reader (List Record) := loop recordTurn []

def table : Reader Table := do
  let b ← valueStart
  if b = byte '[' then do
    let records ← enclosed listEnd (.ok <$> records)
    match ← token with
    | none => pure ⟨records.reverse⟩
    | some _ => refuseNext .trailingCharacters
  else refuseShape .sequence b

end Reader

def Table.read (delivery : Delivery) (bytes : List UInt8) : Except Fault Table :=
  match Reader.table delivery (.start bytes) with
  | .done table _ => .ok table
  | .failed fault _ => .error fault

end ShaderBinding
