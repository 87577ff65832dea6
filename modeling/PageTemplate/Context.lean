/-
The context of a page: the named values that its templates see. Three of the names hold the time
of the last refresh; a clock supplies the readings.
-/
import PageTemplate.Data
import PageTemplate.Value.Order

namespace PageTemplate

/-- One look at the clock, in the forms that a page can show. -/
structure Reading where
  timestamp : Float
  date : String
  isoDate : String

/-- The reading of a clock at a number of seconds since 1970, which is the given local time. -/
def Reading.ofLocal (seconds : Int) (year month day hour minute second microsecond : Nat) :
    Reading where
  timestamp := Float.ofInt seconds + Float.ofNat microsecond / 1000000.0
  date := String.ofList (zeroPadded 4 year ++ zeroPadded 2 month ++ zeroPadded 2 day)
  isoDate := String.ofList (
    zeroPadded 4 year ++ '-' :: zeroPadded 2 month ++ '-' :: zeroPadded 2 day
      ++ 'T' :: zeroPadded 2 hour ++ ':' :: zeroPadded 2 minute ++ ':' :: zeroPadded 2 second
      ++ '.' :: zeroPadded 6 microsecond)

/-- A supply of readings, and how many of them are used up. -/
structure Clock where
  reading : Nat → Reading
  used : Nat

/-- The next reading. -/
def Clock.now (clock : Clock) : Reading := clock.reading clock.used

/-- The clock after a reading. -/
def Clock.tick (clock : Clock) : Clock := { clock with used := clock.used + 1 }

/-- Named values in order. -/
structure Context where
  fields : Fields Value

namespace Context

/-- Writes the time of a reading over the old one; missing time names go to the end. -/
def refresh (ctx : Context) (now : Reading) : Context where
  fields := ctx.fields
    |>.insert "timestamp" (.float now.timestamp)
    |>.insert "date" (.str now.date)
    |>.insert "iso_date" (.str now.isoDate)

/-- A context that holds the time only. -/
def new (now : Reading) : Context := refresh ⟨[]⟩ now

def get? (ctx : Context) (name : String) : Option Value := ctx.fields.get? name

def contains (ctx : Context) (name : String) : Bool := (ctx.get? name).isSome

def insert (ctx : Context) (name : String) (value : Value) : Context :=
  ⟨ctx.fields.insert name value⟩

def erase (ctx : Context) (name : String) : Context := ⟨ctx.fields.erase name⟩

/-- Writes a value and gives back the one that was there before. -/
def replace (ctx : Context) (name : String) (value : Value) : Option Value × Context :=
  let (replaced, fields) := ctx.fields.replace name value
  (replaced, ⟨fields⟩)

/-- Removes a name and gives back its value. -/
def take (ctx : Context) (name : String) : Option Value × Context :=
  let (taken, fields) := ctx.fields.take name
  (taken, ⟨fields⟩)

def names (ctx : Context) : List String := ctx.fields.names

def size (ctx : Context) : Nat := ctx.fields.length

/-- Do two contexts hold equal values under the same names, in any order? -/
def equal (a b : Context) : Bool := (Value.map a.fields).equal (.map b.fields)

/-- Writes every value of `other`; names that are present keep their place. -/
def update (ctx other : Context) : Context := ⟨ctx.fields.update other.fields⟩

/-- Writes the fields of a record that are not null. Null data has no fields; other data is
refused. -/
def merge (ctx : Context) (data : Data) : Except DataFault Context := do
  match ← data.toValue with
  | .map fields => return ⟨ctx.fields.update (fields.filter fun (_, value) => !value.isNull)⟩
  | .null => return ctx
  | other => .error (.notARecord other.kind)

/-- A new context with the fields of a record. -/
def ofData (now : Reading) (data : Data) : Except DataFault Context := (new now).merge data

end Context

end PageTemplate
