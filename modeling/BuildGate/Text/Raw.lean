import BuildGate.Text.Utf8

namespace BuildGate.Raw

def ofBytes (bs : List UInt8) : String := String.ofList (bs.map fun b => Char.ofNat b.toNat)

def bytes (s : String) : List UInt8 := s.toList.map fun c => c.toNat.toUInt8

def ofText (s : String) : String := ofBytes (Text.encodeUtf8 s)

def toText (s : String) : String := Text.decodeLossy (bytes s)

end BuildGate.Raw
