import ProxySteward.Text.Utf8

/-!
# Lines of bytes

A file that may not be text is cut into lines before it is decoded, so that the lines in front of a
broken one can still be read.
-/

namespace ProxySteward
namespace Text

/-- The lines of a file, each with the line feed that ends it. -/
def byteLines : Bytes → List Bytes
  | [] => []
  | b :: rest =>
    if b = 0x0A then [b] :: byteLines rest
    else match byteLines rest with
      | [] => [[b]]
      | line :: lines => (b :: line) :: lines

end Text
end ProxySteward
