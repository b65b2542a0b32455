import Typewire.Wire.Varint

/-!
# Writing fields

The counterpart of reading for the two wire types that responses use.
-/
namespace Typewire.Wire

def writeWordField (number value : Nat) : Bytes :=
  writeVarint (8 * number) ++ writeVarint value

def writeBytesField (number : Nat) (bytes : Bytes) : Bytes :=
  writeVarint (8 * number + 2) ++ writeVarint bytes.length ++ bytes

def encodeText (text : String) : Bytes :=
  text.toUTF8.data.toList

def writeTextField (number : Nat) (text : String) : Bytes :=
  writeBytesField number (encodeText text)

end Typewire.Wire
