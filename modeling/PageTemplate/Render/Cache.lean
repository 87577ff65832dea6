/-
The cache of compiled templates. An entry is used again while the fingerprint of the source and of
the buffer name stays the same; a source that does not compile leaves the cache as it was.
-/
import PageTemplate.Fields
import PageTemplate.Line.Compile
import PageTemplate.SipHash

namespace PageTemplate

/-- The fingerprint of a source and a buffer name: the hash of both in UTF-8, each closed by a byte
that UTF-8 never uses. -/
def fingerprint (source : Text) (buffer : String) : UInt64 :=
  let bytes (text : Text) : List UInt8 := text.flatMap String.utf8EncodeChar ++ [0xFF]
  SipHash.ofBytes (bytes source ++ bytes buffer.toList)

/-- The statements of a template, and the fingerprint of what they were compiled from. -/
structure Compiled where
  fingerprint : UInt64
  statements : List Statement

/-- Compiled templates by name. -/
abbrev Cache := Fields Compiled

namespace Cache

/-- The statements of a source, from the cache if the source and the buffer name are the old ones,
and the cache afterwards. -/
def statements (cache : Cache) (name : String) (source : Text) (buffer : String) :
    Except TemplateError (List Statement) × Cache :=
  let mark := fingerprint source buffer
  let compiled := Statement.ofLines buffer source.lines
  let renewed :=
    match compiled with
    | .ok statements => (.ok statements, Fields.insert name ⟨mark, statements⟩ cache)
    | .error e => (.error e, cache)
  match Fields.get? name cache with
  | some entry => if entry.fingerprint = mark then (.ok entry.statements, cache) else renewed
  | none => renewed

/-- Drops the compiled form of a template. -/
def forget (cache : Cache) (name : String) : Cache := Fields.erase name cache

end Cache

end PageTemplate
