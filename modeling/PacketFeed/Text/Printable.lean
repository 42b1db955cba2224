import PacketFeed.Text.Unprintable

/-!
# Printable characters

Whether a character can stand for itself in quoted text.  Among the first 128
characters these are the ones from the blank to the tilde; among the others,
all that lie in no range of unprintable ones.
-/

namespace PacketFeed.Text

/-- Whether a character shows as a character of its own. -/
def isPrintable (character : Char) : Bool :=
  let number := character.toNat
  if number < 0x80 then
    0x20 ≤ number && number < 0x7f
  else
    !unprintableRanges.any fun (first, last) =>
      first ≤ number && number ≤ last

end PacketFeed.Text
