/-!
Digests: the 64-bit FNV-1a hash of a sequence of bytes.
-/

namespace MetricPipeline.Digest

/-- The digest of no bytes. -/
def start : UInt64 := 0xcbf29ce484222325

/-- A digest with one more byte. -/
def step (digest : UInt64) (byte : UInt8) : UInt64 := (digest ^^^ byte.toUInt64) * 0x100000001b3

/-- A digest with more bytes. -/
def extend (digest : UInt64) (bytes : List UInt8) : UInt64 := bytes.foldl step digest

/-- The digest of bytes. -/
def ofBytes (bytes : List UInt8) : UInt64 := extend start bytes

/-- A digest with the bytes of a text. -/
def extendText (digest : UInt64) (text : String) : UInt64 := extend digest text.toUTF8.data.toList

end MetricPipeline.Digest
