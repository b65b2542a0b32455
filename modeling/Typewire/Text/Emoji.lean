import Typewire.Text.EmojiNames
import Typewire.Text.Lowercase
import Typewire.Text.Words

/-!
# Emoji by name

A name between two colons stands for its emoji. The name may end in `-emoji` or `-text`, which asks for
the picture or for the plain sign. A name that belongs to no emoji stays, with both of its colons.
-/
namespace Typewire.Text

/-- The emoji of a name. Case does not matter. -/
def emoji? (name : List Char) : Option (List Char) :=
  valueAfter (lower name) (wordsOf emojiNames.toList)

/-- The endings of names, and the invisible characters that they ask for. -/
def emojiVariants : List (List Char × Char) :=
  [("-emoji".toList, '\ufe0f'), ("-text".toList, '\ufe0e')]

/-- What a name between colons stands for. -/
def namedEmoji? (name : List Char) : Option (List Char) :=
  match emojiVariants.find? fun variant => variant.1.isSuffixOf name with
  | some (ending, selector) =>
    (emoji? (name.take (name.length - ending.length))).map (· ++ [selector])
  | none => emoji? name

/-- The name at the start of a text that a colon ends, without blanks in it. -/
def colonName? (cs : List Char) : Option (List Char) :=
  let name := cs.takeWhile fun c => !isBlank c && c != ':'
  if (cs.drop name.length).head? = some ':' then some name else none

/-- A text with emoji for their names, after `skipped` more characters of a name. -/
def withEmojiAfter : Nat → List Char → List Char
  | _, [] => []
  | skipped + 1, _ :: rest => withEmojiAfter skipped rest
  | 0, c :: rest =>
    if c = ':' then
      match colonName? rest with
      | some name =>
        (namedEmoji? name).getD (':' :: name ++ [':']) ++ withEmojiAfter (name.length + 1) rest
      | none => c :: withEmojiAfter 0 rest
    else c :: withEmojiAfter 0 rest

def withEmoji (cs : List Char) : List Char :=
  withEmojiAfter 0 cs

end Typewire.Text
