/-
Data handed over by a caller, before it becomes a value. It is richer than a value: numbers of
several widths, optional and wrapped data, variants, records, and maps given call by call, key
and value apart. Conversion drops the wrappers, writes keys as strings, and stops at the first
call that cannot be honoured.
-/
import PageTemplate.Value.Written

namespace PageTemplate

mutual

/-- Data as a caller describes it. -/
inductive Data where
  | bool (b : Bool)
  /-- An integer of at most 64 signed bits. -/
  | signed (i : Int64)
  | unsigned (n : UInt64)
  /-- A signed integer of 128 bits, which is refused whatever its size. -/
  | wide (i : Int)
  | single (x : Float32)
  | double (x : Float)
  | char (c : Char)
  | str (s : String)
  | bytes (bs : List UInt8)
  | absent
  | unit
  | present (content : Data)
  /-- A wrapper with a name of its own. -/
  | newtype (content : Data)
  /-- A variant without content. -/
  | variant (name : String)
  | seq (items : List Data)
  | map (calls : List MapCall)
  | record (fields : List (String × Data))
  /-- Data whose description fails with a message of its own. -/
  | failure (message : String)

/-- One call in the description of a map. -/
inductive MapCall where
  | key (data : Data)
  | value (data : Data)

end

/-- Why data cannot become a value. -/
inductive DataFault where
  | custom (message : String)
  | wideInteger
  | keyKind (kind : Kind)
  | missingKey
  | notARecord (kind : Kind)
  deriving DecidableEq, Repr

def DataFault.message : DataFault → String
  | .custom message => message
  | .wideInteger => "i128 is not supported"
  | .keyKind kind => s!"map key must be a string, got {kind.name}"
  | .missingKey => "missing key for map value"
  | .notARecord kind => s!"context data must be a record, got {kind.name}"

/-- A key of a map as a string: a string as it is, and numbers and booleans by their text. -/
def Value.key? : Value → Except DataFault String
  | .str s => .ok s
  | .bool b => .ok (String.ofList (Value.bool b).text)
  | .int i => .ok (String.ofList (Value.int i).text)
  | .float x => .ok (String.ofList (Value.float x).text)
  | v => .error (.keyKind v.kind)

namespace Data

mutual

/-- The value of some data. -/
def toValue : Data → Except DataFault Value
  | .bool b => .ok (.bool b)
  | .signed i => .ok (.int i)
  | .unsigned n => .ok (.ofNat n.toNat)
  | .wide _ => .error .wideInteger
  | .single x => .ok (.float x.toFloat)
  | .double x => .ok (.float x)
  | .char c => .ok (.str c.toString)
  | .str s => .ok (.str s)
  | .bytes bs => .ok (.list (bs.map fun b => .int (Int64.ofNat b.toNat)))
  | .absent => .ok .null
  | .unit => .ok .null
  | .present content => content.toValue
  | .newtype content => content.toValue
  | .variant name => .ok (.str name)
  | .seq items => .list <$> itemValues items
  | .map calls => .map <$> mapFields none [] calls
  | .record fields => .map <$> recordFields [] fields
  | .failure message => .error (.custom message)

/-- The values of the items of a sequence, in order. -/
def itemValues : List Data → Except DataFault (List Value)
  | [] => .ok []
  | item :: rest => do
    let v ← item.toValue
    let vs ← itemValues rest
    return v :: vs

/-- The entries of a map after some calls. `pending` is the key that waits for its value; a second
key takes its place. The value of a call is looked at before its key is missed. -/
def mapFields (pending : Option String) (fields : Fields Value) :
    List MapCall → Except DataFault (List (String × Value))
  | [] => .ok fields
  | .key data :: rest => do
    let key ← (← data.toValue).key?
    mapFields (some key) fields rest
  | .value data :: rest => do
    let v ← data.toValue
    match pending with
    | none => .error .missingKey
    | some key => mapFields none (fields.insert key v) rest

/-- The entries of a record, of which a repeated name keeps its place and takes the last value. -/
def recordFields (fields : Fields Value) :
    List (String × Data) → Except DataFault (List (String × Value))
  | [] => .ok fields
  | (name, data) :: rest => do
    let v ← data.toValue
    recordFields (fields.insert name v) rest

end

end Data

namespace Value

mutual

/-- A value as data again. -/
def toData : Value → Data
  | .null => .unit
  | .bool b => .bool b
  | .int i => .signed i
  | .float x => .double x
  | .str s => .str s
  | .list items => .seq (itemData items)
  | .map fields => .map (fieldCalls fields)

/-- The items of a list as data. -/
def itemData : List Value → List Data
  | [] => []
  | item :: rest => item.toData :: itemData rest

/-- The entries of a map as calls: each key, then its value. -/
def fieldCalls : List (String × Value) → List MapCall
  | [] => []
  | (key, value) :: rest => .key (.str key) :: .value value.toData :: fieldCalls rest

end

end Value

end PageTemplate
