import TableInterfaces.Text.CodeSet
import TableInterfaces.Text.Lines

/-!
# Compatibility forms

Characters that Unicode 14 takes for forms of others: letters with their accents, ligatures, letters
in other styles and widths. The compatibility form of a text has each such character taken apart and
the marks behind a character in the order of their classes; texts with the same form are compatible.
The tables hold the characters that names are made of.
-/

namespace TableInterfaces.Text

/-! ## Tables -/

/-- The forms of consecutive characters from `first` on, with spaces between them. -/
structure FormRow where
  first : Nat
  forms : String

/-- The forms of all characters but Korean syllables. A character that is its own form may stand
between others. -/
def formRows : List FormRow := [
  ⟨0xAA, "a"⟩, ⟨0xB5, "μ"⟩, ⟨0xBA, "o"⟩,
  ⟨0xC0, "A\u0300 A\u0301 A\u0302 A\u0303 A\u0308 A\u030a Æ C\u0327 E\u0300 E\u0301 E\u0302"⟩,
  ⟨0xCB, "E\u0308 I\u0300 I\u0301 I\u0302 I\u0308 Ð N\u0303 O\u0300 O\u0301 O\u0302 O\u0303"⟩,
  ⟨0xD6, "O\u0308"⟩,
  ⟨0xD9, "U\u0300 U\u0301 U\u0302 U\u0308 Y\u0301 Þ ß a\u0300 a\u0301 a\u0302 a\u0303 a\u0308"⟩,
  ⟨0xE5, "a\u030a æ c\u0327 e\u0300 e\u0301 e\u0302 e\u0308 i\u0300 i\u0301 i\u0302 i\u0308 ð"⟩,
  ⟨0xF1, "n\u0303 o\u0300 o\u0301 o\u0302 o\u0303 o\u0308"⟩,
  ⟨0xF9, "u\u0300 u\u0301 u\u0302 u\u0308 y\u0301 þ y\u0308 A\u0304 a\u0304 A\u0306 a\u0306"⟩,
  ⟨0x104, "A\u0328 a\u0328 C\u0301 c\u0301 C\u0302 c\u0302 C\u0307 c\u0307 C\u030c c\u030c"⟩,
  ⟨0x10E, "D\u030c d\u030c Đ đ E\u0304 e\u0304 E\u0306 e\u0306 E\u0307 e\u0307 E\u0328 e\u0328"⟩,
  ⟨0x11A, "E\u030c e\u030c G\u0302 g\u0302 G\u0306 g\u0306 G\u0307 g\u0307 G\u0327 g\u0327"⟩,
  ⟨0x124, "H\u0302 h\u0302 Ħ ħ I\u0303 i\u0303 I\u0304 i\u0304 I\u0306 i\u0306 I\u0328 i\u0328"⟩,
  ⟨0x130, "I\u0307 ı IJ ij J\u0302 j\u0302 K\u0327 k\u0327 ĸ L\u0301 l\u0301 L\u0327 l\u0327"⟩,
  ⟨0x13D, "L\u030c l\u030c L· l· Ł ł N\u0301 n\u0301 N\u0327 n\u0327 N\u030c n\u030c \u02bcn Ŋ ŋ"⟩,
  ⟨0x14C, "O\u0304 o\u0304 O\u0306 o\u0306 O\u030b o\u030b Œ œ R\u0301 r\u0301 R\u0327 r\u0327"⟩,
  ⟨0x158, "R\u030c r\u030c S\u0301 s\u0301 S\u0302 s\u0302 S\u0327 s\u0327 S\u030c s\u030c"⟩,
  ⟨0x162, "T\u0327 t\u0327 T\u030c t\u030c Ŧ ŧ U\u0303 u\u0303 U\u0304 u\u0304 U\u0306 u\u0306"⟩,
  ⟨0x16E, "U\u030a u\u030a U\u030b u\u030b U\u0328 u\u0328 W\u0302 w\u0302 Y\u0302 y\u0302"⟩,
  ⟨0x178, "Y\u0308 Z\u0301 z\u0301 Z\u0307 z\u0307 Z\u030c z\u030c s"⟩, ⟨0x1A0, "O\u031b o\u031b"⟩,
  ⟨0x1AF, "U\u031b u\u031b"⟩,
  ⟨0x1C4, "DZ\u030c Dz\u030c dz\u030c LJ Lj lj NJ Nj nj A\u030c a\u030c I\u030c i\u030c O\u030c"⟩,
  ⟨0x1D2, "o\u030c U\u030c u\u030c U\u0308\u0304 u\u0308\u0304 U\u0308\u0301 u\u0308\u0301"⟩,
  ⟨0x1D9, "U\u0308\u030c u\u0308\u030c U\u0308\u0300 u\u0308\u0300 ǝ A\u0308\u0304 a\u0308\u0304"⟩,
  ⟨0x1E0, "A\u0307\u0304 a\u0307\u0304 Æ\u0304 æ\u0304 Ǥ ǥ G\u030c g\u030c K\u030c k\u030c"⟩,
  ⟨0x1EA, "O\u0328 o\u0328 O\u0328\u0304 o\u0328\u0304 Ʒ\u030c ʒ\u030c j\u030c DZ Dz dz G\u0301"⟩,
  ⟨0x1F5, "g\u0301 Ƕ Ƿ N\u0300 n\u0300 A\u030a\u0301 a\u030a\u0301 Æ\u0301 æ\u0301 Ø\u0301"⟩,
  ⟨0x1FF, "ø\u0301 A\u030f a\u030f A\u0311 a\u0311 E\u030f e\u030f E\u0311 e\u0311 I\u030f"⟩,
  ⟨0x209, "i\u030f I\u0311 i\u0311 O\u030f o\u030f O\u0311 o\u0311 R\u030f r\u030f R\u0311"⟩,
  ⟨0x213, "r\u0311 U\u030f u\u030f U\u0311 u\u0311 S\u0326 s\u0326 T\u0326 t\u0326 Ȝ ȝ H\u030c"⟩,
  ⟨0x21F, "h\u030c"⟩,
  ⟨0x226, "A\u0307 a\u0307 E\u0327 e\u0327 O\u0308\u0304 o\u0308\u0304 O\u0303\u0304"⟩,
  ⟨0x22D, "o\u0303\u0304 O\u0307 o\u0307 O\u0307\u0304 o\u0307\u0304 Y\u0304 y\u0304"⟩,
  ⟨0x2B0, "h ɦ j r ɹ ɻ ʁ w y"⟩, ⟨0x2E0, "ɣ l s x ʕ"⟩, ⟨0x340, "\u0300 \u0301"⟩,
  ⟨0x343, "\u0313 \u0308\u0301"⟩, ⟨0x374, "\u02b9"⟩, ⟨0x386, "Α\u0301 · Ε\u0301 Η\u0301 Ι\u0301"⟩,
  ⟨0x38C, "Ο\u0301"⟩, ⟨0x38E, "Υ\u0301 Ω\u0301 ι\u0308\u0301"⟩,
  ⟨0x3AA, "Ι\u0308 Υ\u0308 α\u0301 ε\u0301 η\u0301 ι\u0301 υ\u0308\u0301"⟩,
  ⟨0x3CA, "ι\u0308 υ\u0308 ο\u0301 υ\u0301 ω\u0301 Ϗ β θ Υ Υ\u0301 Υ\u0308 φ π"⟩,
  ⟨0x3F0, "κ ρ ς ϳ Θ ε"⟩, ⟨0x3F9, "Σ"⟩, ⟨0x400, "Е\u0300 Е\u0308 Ђ Г\u0301 Є Ѕ І І\u0308"⟩,
  ⟨0x40C, "К\u0301 И\u0300 У\u0306"⟩, ⟨0x419, "И\u0306"⟩, ⟨0x439, "и\u0306"⟩,
  ⟨0x450, "е\u0300 е\u0308 ђ г\u0301 є ѕ і і\u0308"⟩, ⟨0x45C, "к\u0301 и\u0300 у\u0306"⟩,
  ⟨0x476, "Ѵ\u030f ѵ\u030f"⟩, ⟨0x4C1, "Ж\u0306 ж\u0306"⟩,
  ⟨0x4D0, "А\u0306 а\u0306 А\u0308 а\u0308 Ӕ ӕ Е\u0306 е\u0306 Ә ә Ә\u0308 ә\u0308 Ж\u0308"⟩,
  ⟨0x4DD, "ж\u0308 З\u0308 з\u0308 Ӡ ӡ И\u0304 и\u0304 И\u0308 и\u0308 О\u0308 о\u0308 Ө ө"⟩,
  ⟨0x4EA, "Ө\u0308 ө\u0308 Э\u0308 э\u0308 У\u0304 у\u0304 У\u0308 у\u0308 У\u030b у\u030b"⟩,
  ⟨0x4F4, "Ч\u0308 ч\u0308 Ӷ ӷ Ы\u0308 ы\u0308"⟩, ⟨0x587, "եւ"⟩,
  ⟨0x622, "\u0627\u0653 \u0627\u0654 \u0648\u0654 \u0627\u0655 \u064a\u0654"⟩,
  ⟨0x675, "\u0627\u0674 \u0648\u0674 \u06c7\u0674 \u064a\u0674"⟩,
  ⟨0x6C0, "\u06d5\u0654 \u06c1 \u06c1\u0654"⟩, ⟨0x6D3, "\u06d2\u0654"⟩, ⟨0x929, "न\u093c"⟩,
  ⟨0x931, "र\u093c ल ळ ळ\u093c"⟩,
  ⟨0x958, "क\u093c ख\u093c ग\u093c ज\u093c ड\u093c ढ\u093c फ\u093c य\u093c"⟩,
  ⟨0x9CB, "\u09c7\u09be \u09c7\u09d7"⟩, ⟨0x9DC, "ড\u09bc ঢ\u09bc"⟩, ⟨0x9DF, "য\u09bc"⟩,
  ⟨0xA33, "ਲ\u0a3c"⟩, ⟨0xA36, "ਸ\u0a3c"⟩, ⟨0xA59, "ਖ\u0a3c ਗ\u0a3c ਜ\u0a3c"⟩, ⟨0xA5E, "ਫ\u0a3c"⟩,
  ⟨0xB48, "\u0b47\u0b56"⟩, ⟨0xB4B, "\u0b47\u0b3e \u0b47\u0b57"⟩, ⟨0xB5C, "ଡ\u0b3c ଢ\u0b3c"⟩,
  ⟨0xB94, "ஒ\u0bd7"⟩, ⟨0xBCA, "\u0bc6\u0bbe \u0bc7\u0bbe \u0bc6\u0bd7"⟩, ⟨0xC48, "\u0c46\u0c56"⟩,
  ⟨0xCC0, "\u0cbf\u0cd5"⟩, ⟨0xCC7, "\u0cc6\u0cd5 \u0cc6\u0cd6"⟩,
  ⟨0xCCA, "\u0cc6\u0cc2 \u0cc6\u0cc2\u0cd5"⟩, ⟨0xD4A, "\u0d46\u0d3e \u0d47\u0d3e \u0d46\u0d57"⟩,
  ⟨0xDDA, "\u0dd9\u0dca"⟩, ⟨0xDDC, "\u0dd9\u0dcf \u0dd9\u0dcf\u0dca \u0dd9\u0ddf"⟩,
  ⟨0xE33, "\u0e4dา"⟩, ⟨0xEB3, "\u0ecdາ"⟩, ⟨0xEDC, "ຫນ ຫມ"⟩, ⟨0xF43, "ག\u0fb7"⟩, ⟨0xF4D, "ཌ\u0fb7"⟩,
  ⟨0xF52, "ད\u0fb7"⟩, ⟨0xF57, "བ\u0fb7"⟩, ⟨0xF5C, "ཛ\u0fb7"⟩, ⟨0xF69, "ཀ\u0fb5"⟩,
  ⟨0xF73, "\u0f71\u0f72"⟩,
  ⟨0xF75, "\u0f71\u0f74 \u0fb2\u0f80 \u0fb2\u0f71\u0f80 \u0fb3\u0f80 \u0fb3\u0f71\u0f80"⟩,
  ⟨0xF81, "\u0f71\u0f80"⟩, ⟨0xF93, "\u0f92\u0fb7"⟩, ⟨0xF9D, "\u0f9c\u0fb7"⟩,
  ⟨0xFA2, "\u0fa1\u0fb7"⟩, ⟨0xFA7, "\u0fa6\u0fb7"⟩, ⟨0xFAC, "\u0fab\u0fb7"⟩,
  ⟨0xFB9, "\u0f90\u0fb5"⟩, ⟨0x1026, "ဥ\u102e"⟩, ⟨0x10FC, "ნ"⟩,
  ⟨0x1B06, "ᬅ\u1b35 ᬇ ᬇ\u1b35 ᬉ ᬉ\u1b35 ᬋ ᬋ\u1b35 ᬍ ᬍ\u1b35 ᬏ ᬐ ᬑ ᬑ\u1b35"⟩,
  ⟨0x1B3B, "\u1b3a\u1b35"⟩, ⟨0x1B3D, "\u1b3c\u1b35"⟩, ⟨0x1B40, "\u1b3e\u1b35 \u1b3f\u1b35"⟩,
  ⟨0x1B43, "\u1b42\u1b35"⟩,
  ⟨0x1D2C, "A Æ B \u1d2f D E Ǝ G H I J K L M N \u1d3b O Ȣ P R T U W a ɐ ɑ ᴂ b d e ə ɛ ɜ g \u1d4e"⟩,
  ⟨0x1D4F, "k m ŋ o ɔ ᴖ ᴗ p t u ᴝ ɯ v ᴥ β γ δ φ χ i r u v β γ ρ φ χ"⟩, ⟨0x1D78, "н"⟩,
  ⟨0x1D9B, "ɒ c ɕ ð ɜ f ɟ ɡ ɥ ɨ ɩ ɪ ᵻ ʝ ɭ ᶅ ʟ ɱ ɰ ɲ ɳ ɴ ɵ ɸ ʂ ʃ ƫ ʉ ʊ ᴜ ʋ ʌ z ʐ ʑ ʒ θ"⟩,
  ⟨0x1E00, "A\u0325 a\u0325 B\u0307 b\u0307 B\u0323 b\u0323 B\u0331 b\u0331 C\u0327\u0301"⟩,
  ⟨0x1E09, "c\u0327\u0301 D\u0307 d\u0307 D\u0323 d\u0323 D\u0331 d\u0331 D\u0327 d\u0327 D\u032d"⟩,
  ⟨0x1E13, "d\u032d E\u0304\u0300 e\u0304\u0300 E\u0304\u0301 e\u0304\u0301 E\u032d e\u032d"⟩,
  ⟨0x1E1A, "E\u0330 e\u0330 E\u0327\u0306 e\u0327\u0306 F\u0307 f\u0307 G\u0304 g\u0304 H\u0307"⟩,
  ⟨0x1E23, "h\u0307 H\u0323 h\u0323 H\u0308 h\u0308 H\u0327 h\u0327 H\u032e h\u032e I\u0330"⟩,
  ⟨0x1E2D, "i\u0330 I\u0308\u0301 i\u0308\u0301 K\u0301 k\u0301 K\u0323 k\u0323 K\u0331 k\u0331"⟩,
  ⟨0x1E36, "L\u0323 l\u0323 L\u0323\u0304 l\u0323\u0304 L\u0331 l\u0331 L\u032d l\u032d M\u0301"⟩,
  ⟨0x1E3F, "m\u0301 M\u0307 m\u0307 M\u0323 m\u0323 N\u0307 n\u0307 N\u0323 n\u0323 N\u0331"⟩,
  ⟨0x1E49, "n\u0331 N\u032d n\u032d O\u0303\u0301 o\u0303\u0301 O\u0303\u0308 o\u0303\u0308"⟩,
  ⟨0x1E50, "O\u0304\u0300 o\u0304\u0300 O\u0304\u0301 o\u0304\u0301 P\u0301 p\u0301 P\u0307"⟩,
  ⟨0x1E57, "p\u0307 R\u0307 r\u0307 R\u0323 r\u0323 R\u0323\u0304 r\u0323\u0304 R\u0331 r\u0331"⟩,
  ⟨0x1E60, "S\u0307 s\u0307 S\u0323 s\u0323 S\u0301\u0307 s\u0301\u0307 S\u030c\u0307"⟩,
  ⟨0x1E67, "s\u030c\u0307 S\u0323\u0307 s\u0323\u0307 T\u0307 t\u0307 T\u0323 t\u0323 T\u0331"⟩,
  ⟨0x1E6F, "t\u0331 T\u032d t\u032d U\u0324 u\u0324 U\u0330 u\u0330 U\u032d u\u032d U\u0303\u0301"⟩,
  ⟨0x1E79, "u\u0303\u0301 U\u0304\u0308 u\u0304\u0308 V\u0303 v\u0303 V\u0323 v\u0323 W\u0300"⟩,
  ⟨0x1E81, "w\u0300 W\u0301 w\u0301 W\u0308 w\u0308 W\u0307 w\u0307 W\u0323 w\u0323 X\u0307"⟩,
  ⟨0x1E8B, "x\u0307 X\u0308 x\u0308 Y\u0307 y\u0307 Z\u0302 z\u0302 Z\u0323 z\u0323 Z\u0331"⟩,
  ⟨0x1E95, "z\u0331 h\u0331 t\u0308 w\u030a y\u030a a\u02be s\u0307"⟩,
  ⟨0x1EA0, "A\u0323 a\u0323 A\u0309 a\u0309 A\u0302\u0301 a\u0302\u0301 A\u0302\u0300"⟩,
  ⟨0x1EA7, "a\u0302\u0300 A\u0302\u0309 a\u0302\u0309 A\u0302\u0303 a\u0302\u0303 A\u0323\u0302"⟩,
  ⟨0x1EAD, "a\u0323\u0302 A\u0306\u0301 a\u0306\u0301 A\u0306\u0300 a\u0306\u0300 A\u0306\u0309"⟩,
  ⟨0x1EB3, "a\u0306\u0309 A\u0306\u0303 a\u0306\u0303 A\u0323\u0306 a\u0323\u0306 E\u0323 e\u0323"⟩,
  ⟨0x1EBA, "E\u0309 e\u0309 E\u0303 e\u0303 E\u0302\u0301 e\u0302\u0301 E\u0302\u0300"⟩,
  ⟨0x1EC1, "e\u0302\u0300 E\u0302\u0309 e\u0302\u0309 E\u0302\u0303 e\u0302\u0303 E\u0323\u0302"⟩,
  ⟨0x1EC7, "e\u0323\u0302 I\u0309 i\u0309 I\u0323 i\u0323 O\u0323 o\u0323 O\u0309 o\u0309"⟩,
  ⟨0x1ED0, "O\u0302\u0301 o\u0302\u0301 O\u0302\u0300 o\u0302\u0300 O\u0302\u0309 o\u0302\u0309"⟩,
  ⟨0x1ED6, "O\u0302\u0303 o\u0302\u0303 O\u0323\u0302 o\u0323\u0302 O\u031b\u0301 o\u031b\u0301"⟩,
  ⟨0x1EDC, "O\u031b\u0300 o\u031b\u0300 O\u031b\u0309 o\u031b\u0309 O\u031b\u0303 o\u031b\u0303"⟩,
  ⟨0x1EE2, "O\u031b\u0323 o\u031b\u0323 U\u0323 u\u0323 U\u0309 u\u0309 U\u031b\u0301"⟩,
  ⟨0x1EE9, "u\u031b\u0301 U\u031b\u0300 u\u031b\u0300 U\u031b\u0309 u\u031b\u0309 U\u031b\u0303"⟩,
  ⟨0x1EEF, "u\u031b\u0303 U\u031b\u0323 u\u031b\u0323 Y\u0300 y\u0300 Y\u0323 y\u0323 Y\u0309"⟩,
  ⟨0x1EF7, "y\u0309 Y\u0303 y\u0303"⟩,
  ⟨0x1F00, "α\u0313 α\u0314 α\u0313\u0300 α\u0314\u0300 α\u0313\u0301 α\u0314\u0301 α\u0313\u0342"⟩,
  ⟨0x1F07, "α\u0314\u0342 Α\u0313 Α\u0314 Α\u0313\u0300 Α\u0314\u0300 Α\u0313\u0301 Α\u0314\u0301"⟩,
  ⟨0x1F0E, "Α\u0313\u0342 Α\u0314\u0342 ε\u0313 ε\u0314 ε\u0313\u0300 ε\u0314\u0300 ε\u0313\u0301"⟩,
  ⟨0x1F15, "ε\u0314\u0301"⟩,
  ⟨0x1F18, "Ε\u0313 Ε\u0314 Ε\u0313\u0300 Ε\u0314\u0300 Ε\u0313\u0301 Ε\u0314\u0301"⟩,
  ⟨0x1F20, "η\u0313 η\u0314 η\u0313\u0300 η\u0314\u0300 η\u0313\u0301 η\u0314\u0301 η\u0313\u0342"⟩,
  ⟨0x1F27, "η\u0314\u0342 Η\u0313 Η\u0314 Η\u0313\u0300 Η\u0314\u0300 Η\u0313\u0301 Η\u0314\u0301"⟩,
  ⟨0x1F2E, "Η\u0313\u0342 Η\u0314\u0342 ι\u0313 ι\u0314 ι\u0313\u0300 ι\u0314\u0300 ι\u0313\u0301"⟩,
  ⟨0x1F35, "ι\u0314\u0301 ι\u0313\u0342 ι\u0314\u0342 Ι\u0313 Ι\u0314 Ι\u0313\u0300 Ι\u0314\u0300"⟩,
  ⟨0x1F3C, "Ι\u0313\u0301 Ι\u0314\u0301 Ι\u0313\u0342 Ι\u0314\u0342 ο\u0313 ο\u0314 ο\u0313\u0300"⟩,
  ⟨0x1F43, "ο\u0314\u0300 ο\u0313\u0301 ο\u0314\u0301"⟩,
  ⟨0x1F48, "Ο\u0313 Ο\u0314 Ο\u0313\u0300 Ο\u0314\u0300 Ο\u0313\u0301 Ο\u0314\u0301"⟩,
  ⟨0x1F50, "υ\u0313 υ\u0314 υ\u0313\u0300 υ\u0314\u0300 υ\u0313\u0301 υ\u0314\u0301 υ\u0313\u0342"⟩,
  ⟨0x1F57, "υ\u0314\u0342"⟩, ⟨0x1F59, "Υ\u0314"⟩, ⟨0x1F5B, "Υ\u0314\u0300"⟩,
  ⟨0x1F5D, "Υ\u0314\u0301"⟩,
  ⟨0x1F5F, "Υ\u0314\u0342 ω\u0313 ω\u0314 ω\u0313\u0300 ω\u0314\u0300 ω\u0313\u0301 ω\u0314\u0301"⟩,
  ⟨0x1F66, "ω\u0313\u0342 ω\u0314\u0342 Ω\u0313 Ω\u0314 Ω\u0313\u0300 Ω\u0314\u0300 Ω\u0313\u0301"⟩,
  ⟨0x1F6D, "Ω\u0314\u0301 Ω\u0313\u0342 Ω\u0314\u0342 α\u0300 α\u0301 ε\u0300 ε\u0301 η\u0300"⟩,
  ⟨0x1F75, "η\u0301 ι\u0300 ι\u0301 ο\u0300 ο\u0301 υ\u0300 υ\u0301 ω\u0300 ω\u0301"⟩,
  ⟨0x1F80, "α\u0313\u0345 α\u0314\u0345 α\u0313\u0300\u0345 α\u0314\u0300\u0345"⟩,
  ⟨0x1F84, "α\u0313\u0301\u0345 α\u0314\u0301\u0345 α\u0313\u0342\u0345 α\u0314\u0342\u0345"⟩,
  ⟨0x1F88, "Α\u0313\u0345 Α\u0314\u0345 Α\u0313\u0300\u0345 Α\u0314\u0300\u0345"⟩,
  ⟨0x1F8C, "Α\u0313\u0301\u0345 Α\u0314\u0301\u0345 Α\u0313\u0342\u0345 Α\u0314\u0342\u0345"⟩,
  ⟨0x1F90, "η\u0313\u0345 η\u0314\u0345 η\u0313\u0300\u0345 η\u0314\u0300\u0345"⟩,
  ⟨0x1F94, "η\u0313\u0301\u0345 η\u0314\u0301\u0345 η\u0313\u0342\u0345 η\u0314\u0342\u0345"⟩,
  ⟨0x1F98, "Η\u0313\u0345 Η\u0314\u0345 Η\u0313\u0300\u0345 Η\u0314\u0300\u0345"⟩,
  ⟨0x1F9C, "Η\u0313\u0301\u0345 Η\u0314\u0301\u0345 Η\u0313\u0342\u0345 Η\u0314\u0342\u0345"⟩,
  ⟨0x1FA0, "ω\u0313\u0345 ω\u0314\u0345 ω\u0313\u0300\u0345 ω\u0314\u0300\u0345"⟩,
  ⟨0x1FA4, "ω\u0313\u0301\u0345 ω\u0314\u0301\u0345 ω\u0313\u0342\u0345 ω\u0314\u0342\u0345"⟩,
  ⟨0x1FA8, "Ω\u0313\u0345 Ω\u0314\u0345 Ω\u0313\u0300\u0345 Ω\u0314\u0300\u0345"⟩,
  ⟨0x1FAC, "Ω\u0313\u0301\u0345 Ω\u0314\u0301\u0345 Ω\u0313\u0342\u0345 Ω\u0314\u0342\u0345"⟩,
  ⟨0x1FB0, "α\u0306 α\u0304 α\u0300\u0345 α\u0345 α\u0301\u0345"⟩,
  ⟨0x1FB6, "α\u0342 α\u0342\u0345 Α\u0306 Α\u0304 Α\u0300 Α\u0301 Α\u0345"⟩, ⟨0x1FBE, "ι"⟩,
  ⟨0x1FC2, "η\u0300\u0345 η\u0345 η\u0301\u0345"⟩,
  ⟨0x1FC6, "η\u0342 η\u0342\u0345 Ε\u0300 Ε\u0301 Η\u0300 Η\u0301 Η\u0345"⟩,
  ⟨0x1FD0, "ι\u0306 ι\u0304 ι\u0308\u0300 ι\u0308\u0301"⟩,
  ⟨0x1FD6, "ι\u0342 ι\u0308\u0342 Ι\u0306 Ι\u0304 Ι\u0300 Ι\u0301"⟩,
  ⟨0x1FE0, "υ\u0306 υ\u0304 υ\u0308\u0300 υ\u0308\u0301 ρ\u0313 ρ\u0314 υ\u0342 υ\u0308\u0342"⟩,
  ⟨0x1FE8, "Υ\u0306 Υ\u0304 Υ\u0300 Υ\u0301 Ρ\u0314"⟩,
  ⟨0x1FF2, "ω\u0300\u0345 ω\u0345 ω\u0301\u0345"⟩,
  ⟨0x1FF6, "ω\u0342 ω\u0342\u0345 Ο\u0300 Ο\u0301 Ω\u0300 Ω\u0301 Ω\u0345"⟩, ⟨0x2071, "i"⟩,
  ⟨0x207F, "n"⟩, ⟨0x2090, "a e o x ə h k l m n p s t"⟩, ⟨0x2102, "C"⟩, ⟨0x2107, "Ɛ"⟩,
  ⟨0x210A, "g H H H h ħ I I L l"⟩, ⟨0x2115, "N"⟩, ⟨0x2119, "P Q R R R"⟩, ⟨0x2124, "Z"⟩,
  ⟨0x2126, "Ω"⟩, ⟨0x2128, "Z"⟩, ⟨0x212A, "K A\u030a B C"⟩,
  ⟨0x212F, "e E F Ⅎ M o \u05d0 \u05d1 \u05d2 \u05d3 i"⟩, ⟨0x213C, "π γ Γ Π"⟩, ⟨0x2145, "D d e i j"⟩,
  ⟨0x2160, "I II III IV V VI VII VIII IX X XI XII L C D M i ii iii iv v vi vii viii ix x xi xii l"⟩,
  ⟨0x217D, "c d m"⟩, ⟨0x2C7C, "j V"⟩, ⟨0x2D6F, "ⵡ"⟩, ⟨0x3038, "十 卄 卅"⟩,
  ⟨0x304C, "か\u3099 き き\u3099 く く\u3099 け け\u3099 こ こ\u3099 さ さ\u3099 し し\u3099 す す\u3099 せ"⟩,
  ⟨0x305C, "せ\u3099 そ そ\u3099 た た\u3099 ち ち\u3099 っ つ つ\u3099 て て\u3099 と と\u3099"⟩,
  ⟨0x3070, "は\u3099 は\u309a ひ ひ\u3099 ひ\u309a ふ ふ\u3099 ふ\u309a へ へ\u3099 へ\u309a ほ ほ\u3099"⟩,
  ⟨0x307D, "ほ\u309a"⟩, ⟨0x3094, "う\u3099"⟩, ⟨0x309E, "\u309d\u3099 より"⟩,
  ⟨0x30AC, "カ\u3099 キ キ\u3099 ク ク\u3099 ケ ケ\u3099 コ コ\u3099 サ サ\u3099 シ シ\u3099 ス ス\u3099 セ"⟩,
  ⟨0x30BC, "セ\u3099 ソ ソ\u3099 タ タ\u3099 チ チ\u3099 ッ ツ ツ\u3099 テ テ\u3099 ト ト\u3099"⟩,
  ⟨0x30D0, "ハ\u3099 ハ\u309a ヒ ヒ\u3099 ヒ\u309a フ フ\u3099 フ\u309a ヘ ヘ\u3099 ヘ\u309a ホ ホ\u3099"⟩,
  ⟨0x30DD, "ホ\u309a"⟩, ⟨0x30F4, "ウ\u3099 ヵ ヶ ワ\u3099 ヰ\u3099 ヱ\u3099 ヲ\u3099"⟩,
  ⟨0x30FE, "\u30fd\u3099 コト"⟩,
  ⟨0x3131, "ᄀ ᄁ ᆪ ᄂ ᆬ ᆭ ᄃ ᄄ ᄅ ᆰ ᆱ ᆲ ᆳ ᆴ ᆵ ᄚ ᄆ ᄇ ᄈ ᄡ ᄉ ᄊ ᄋ ᄌ ᄍ ᄎ ᄏ ᄐ ᄑ ᄒ ᅡ ᅢ ᅣ ᅤ ᅥ ᅦ ᅧ ᅨ ᅩ ᅪ ᅫ ᅬ ᅭ"⟩,
  ⟨0x315C, "ᅮ ᅯ ᅰ ᅱ ᅲ ᅳ ᅴ ᅵ ᅠ ᄔ ᄕ ᇇ ᇈ ᇌ ᇎ ᇓ ᇗ ᇙ ᄜ ᇝ ᇟ ᄝ ᄞ ᄠ ᄢ ᄣ ᄧ ᄩ ᄫ ᄬ ᄭ ᄮ ᄯ ᄲ ᄶ ᅀ ᅇ ᅌ ᇱ ᇲ ᅗ ᅘ ᅙ"⟩,
  ⟨0x3187, "ᆄ ᆅ ᆈ ᆑ ᆒ ᆔ ᆞ ᆡ"⟩, ⟨0xA69C, "ъ ь"⟩, ⟨0xA770, "ꝯ"⟩, ⟨0xA7F2, "C F Q Ꟶ ꟶ ꟷ Ħ œ"⟩,
  ⟨0xAB5C, "ꜧ ꬷ ɫ ꭒ"⟩, ⟨0xAB69, "ʍ"⟩,
  ⟨0xF900, "豈 更 車 賈 滑 串 句 龜 龜 契 金 喇 奈 懶 癩 羅 蘿 螺 裸 邏 樂 洛 烙 珞 落 酪 駱 亂 卵 欄 爛 蘭 鸞 嵐 濫 藍 襤 拉 臘 蠟 廊 朗 浪"⟩,
  ⟨0xF92B, "狼 郎 來 冷 勞 擄 櫓 爐 盧 老 蘆 虜 路 露 魯 鷺 碌 祿 綠 菉 錄 鹿 論 壟 弄 籠 聾 牢 磊 賂 雷 壘 屢 樓 淚 漏 累 縷 陋 勒 肋 凜 凌"⟩,
  ⟨0xF956, "稜 綾 菱 陵 讀 拏 樂 諾 丹 寧 怒 率 異 北 磻 便 復 不 泌 數 索 參 塞 省 葉 說 殺 辰 沈 拾 若 掠 略 亮 兩 凉 梁 糧 良 諒 量 勵 呂"⟩,
  ⟨0xF981, "女 廬 旅 濾 礪 閭 驪 麗 黎 力 曆 歷 轢 年 憐 戀 撚 漣 煉 璉 秊 練 聯 輦 蓮 連 鍊 列 劣 咽 烈 裂 說 廉 念 捻 殮 簾 獵 令 囹 寧 嶺"⟩,
  ⟨0xF9AC, "怜 玲 瑩 羚 聆 鈴 零 靈 領 例 禮 醴 隸 惡 了 僚 寮 尿 料 樂 燎 療 蓼 遼 龍 暈 阮 劉 杻 柳 流 溜 琉 留 硫 紐 類 六 戮 陸 倫 崙 淪"⟩,
  ⟨0xF9D7, "輪 律 慄 栗 率 隆 利 吏 履 易 李 梨 泥 理 痢 罹 裏 裡 里 離 匿 溺 吝 燐 璘 藺 隣 鱗 麟 林 淋 臨 立 笠 粒 狀 炙 識 什 茶 刺 切 度"⟩,
  ⟨0xFA02, "拓 糖 宅 洞 暴 輻 行 降 見 廓 兀 嗀 﨎 﨏 塚 﨑 晴 﨓 﨔 凞 猪 益 礼 神 祥 福 靖 精 羽 﨟 蘒 﨡 諸 﨣 﨤 逸 都 﨧 﨨 﨩 飯 飼 館"⟩,
  ⟨0xFA2D, "鶴 郞 隷 侮 僧 免 勉 勤 卑 喝 嘆 器 塀 墨 層 屮 悔 慨 憎 懲 敏 既 暑 梅 海 渚 漢 煮 爫 琢 碑 社 祉 祈 祐 祖 祝 禍 禎 穀 突 節 練"⟩,
  ⟨0xFA58, "縉 繁 署 者 臭 艹 艹 著 褐 視 謁 謹 賓 贈 辶 逸 難 響 頻 恵 𤋮 舘"⟩,
  ⟨0xFA70, "並 况 全 侀 充 冀 勇 勺 喝 啕 喙 嗢 塚 墳 奄 奔 婢 嬨 廒 廙 彩 徭 惘 慎 愈 憎 慠 懲 戴 揄 搜 摒 敖 晴 朗 望 杖 歹 殺 流 滛 滋 漢"⟩,
  ⟨0xFA9B, "瀞 煮 瞧 爵 犯 猪 瑱 甆 画 瘝 瘟 益 盛 直 睊 着 磌 窱 節 类 絛 練 缾 者 荒 華 蝹 襁 覆 視 調 諸 請 謁 諾 諭 謹 變 贈 輸 遲 醙 鉶"⟩,
  ⟨0xFAC6, "陼 難 靖 韛 響 頋 頻 鬒 龜 𢡊 𢡄 𣏕 㮝 䀘 䀹 𥉉 𥳐 𧻓 齃 龎"⟩, ⟨0xFB00, "ff fi fl ffi ffl st st"⟩,
  ⟨0xFB13, "մն մե մի վն մխ"⟩, ⟨0xFB1D, "\u05d9\u05b4"⟩,
  ⟨0xFB1F, "\u05f2\u05b7 \u05e2 \u05d0 \u05d3 \u05d4 \u05db \u05dc \u05dd \u05e8 \u05ea"⟩,
  ⟨0xFB2A, "\u05e9\u05c1 \u05e9\u05c2 \u05e9\u05bc\u05c1 \u05e9\u05bc\u05c2 \u05d0\u05b7"⟩,
  ⟨0xFB2F, "\u05d0\u05b8 \u05d0\u05bc \u05d1\u05bc \u05d2\u05bc \u05d3\u05bc \u05d4\u05bc"⟩,
  ⟨0xFB35, "\u05d5\u05bc \u05d6\u05bc"⟩,
  ⟨0xFB38, "\u05d8\u05bc \u05d9\u05bc \u05da\u05bc \u05db\u05bc \u05dc\u05bc"⟩,
  ⟨0xFB3E, "\u05de\u05bc"⟩, ⟨0xFB40, "\u05e0\u05bc \u05e1\u05bc"⟩,
  ⟨0xFB43, "\u05e3\u05bc \u05e4\u05bc"⟩,
  ⟨0xFB46, "\u05e6\u05bc \u05e7\u05bc \u05e8\u05bc \u05e9\u05bc \u05ea\u05bc \u05d5\u05b9"⟩,
  ⟨0xFB4C, "\u05d1\u05bf \u05db\u05bf \u05e4\u05bf \u05d0\u05dc \u0671 \u0671 \u067b \u067b"⟩,
  ⟨0xFB54, "\u067b \u067b \u067e \u067e \u067e \u067e \u0680 \u0680 \u0680 \u0680 \u067a \u067a"⟩,
  ⟨0xFB60, "\u067a \u067a \u067f \u067f \u067f \u067f \u0679 \u0679 \u0679 \u0679 \u06a4 \u06a4"⟩,
  ⟨0xFB6C, "\u06a4 \u06a4 \u06a6 \u06a6 \u06a6 \u06a6 \u0684 \u0684 \u0684 \u0684 \u0683 \u0683"⟩,
  ⟨0xFB78, "\u0683 \u0683 \u0686 \u0686 \u0686 \u0686 \u0687 \u0687 \u0687 \u0687 \u068d \u068d"⟩,
  ⟨0xFB84, "\u068c \u068c \u068e \u068e \u0688 \u0688 \u0698 \u0698 \u0691 \u0691 \u06a9 \u06a9"⟩,
  ⟨0xFB90, "\u06a9 \u06a9 \u06af \u06af \u06af \u06af \u06b3 \u06b3 \u06b3 \u06b3 \u06b1 \u06b1"⟩,
  ⟨0xFB9C, "\u06b1 \u06b1 \u06ba \u06ba \u06bb \u06bb \u06bb \u06bb \u06d5\u0654 \u06d5\u0654"⟩,
  ⟨0xFBA6, "\u06c1 \u06c1 \u06c1 \u06c1 \u06be \u06be \u06be \u06be \u06d2 \u06d2 \u06d2\u0654"⟩,
  ⟨0xFBB1, "\u06d2\u0654"⟩,
  ⟨0xFBD3, "\u06ad \u06ad \u06ad \u06ad \u06c7 \u06c7 \u06c6 \u06c6 \u06c8 \u06c8 \u06c7\u0674"⟩,
  ⟨0xFBDE, "\u06cb \u06cb \u06c5 \u06c5 \u06c9 \u06c9 \u06d0 \u06d0 \u06d0 \u06d0 \u0649 \u0649"⟩,
  ⟨0xFBEA, "\u064a\u0654\u0627 \u064a\u0654\u0627 \u064a\u0654\u06d5 \u064a\u0654\u06d5"⟩,
  ⟨0xFBEE, "\u064a\u0654\u0648 \u064a\u0654\u0648 \u064a\u0654\u06c7 \u064a\u0654\u06c7"⟩,
  ⟨0xFBF2, "\u064a\u0654\u06c6 \u064a\u0654\u06c6 \u064a\u0654\u06c8 \u064a\u0654\u06c8"⟩,
  ⟨0xFBF6, "\u064a\u0654\u06d0 \u064a\u0654\u06d0 \u064a\u0654\u06d0 \u064a\u0654\u0649"⟩,
  ⟨0xFBFA, "\u064a\u0654\u0649 \u064a\u0654\u0649 \u06cc \u06cc \u06cc \u06cc \u064a\u0654\u062c"⟩,
  ⟨0xFC01, "\u064a\u0654\u062d \u064a\u0654\u0645 \u064a\u0654\u0649 \u064a\u0654\u064a"⟩,
  ⟨0xFC05, "\u0628\u062c \u0628\u062d \u0628\u062e \u0628\u0645 \u0628\u0649 \u0628\u064a"⟩,
  ⟨0xFC0B, "\u062a\u062c \u062a\u062d \u062a\u062e \u062a\u0645 \u062a\u0649 \u062a\u064a"⟩,
  ⟨0xFC11, "\u062b\u062c \u062b\u0645 \u062b\u0649 \u062b\u064a \u062c\u062d \u062c\u0645"⟩,
  ⟨0xFC17, "\u062d\u062c \u062d\u0645 \u062e\u062c \u062e\u062d \u062e\u0645 \u0633\u062c"⟩,
  ⟨0xFC1D, "\u0633\u062d \u0633\u062e \u0633\u0645 \u0635\u062d \u0635\u0645 \u0636\u062c"⟩,
  ⟨0xFC23, "\u0636\u062d \u0636\u062e \u0636\u0645 \u0637\u062d \u0637\u0645 \u0638\u0645"⟩,
  ⟨0xFC29, "\u0639\u062c \u0639\u0645 \u063a\u062c \u063a\u0645 \u0641\u062c \u0641\u062d"⟩,
  ⟨0xFC2F, "\u0641\u062e \u0641\u0645 \u0641\u0649 \u0641\u064a \u0642\u062d \u0642\u0645"⟩,
  ⟨0xFC35, "\u0642\u0649 \u0642\u064a \u0643\u0627 \u0643\u062c \u0643\u062d \u0643\u062e"⟩,
  ⟨0xFC3B, "\u0643\u0644 \u0643\u0645 \u0643\u0649 \u0643\u064a \u0644\u062c \u0644\u062d"⟩,
  ⟨0xFC41, "\u0644\u062e \u0644\u0645 \u0644\u0649 \u0644\u064a \u0645\u062c \u0645\u062d"⟩,
  ⟨0xFC47, "\u0645\u062e \u0645\u0645 \u0645\u0649 \u0645\u064a \u0646\u062c \u0646\u062d"⟩,
  ⟨0xFC4D, "\u0646\u062e \u0646\u0645 \u0646\u0649 \u0646\u064a \u0647\u062c \u0647\u0645"⟩,
  ⟨0xFC53, "\u0647\u0649 \u0647\u064a \u064a\u062c \u064a\u062d \u064a\u062e \u064a\u0645"⟩,
  ⟨0xFC59, "\u064a\u0649 \u064a\u064a \u0630\u0670 \u0631\u0670 \u0649\u0670"⟩,
  ⟨0xFC64, "\u064a\u0654\u0631 \u064a\u0654\u0632 \u064a\u0654\u0645 \u064a\u0654\u0646"⟩,
  ⟨0xFC68, "\u064a\u0654\u0649 \u064a\u0654\u064a \u0628\u0631 \u0628\u0632 \u0628\u0645"⟩,
  ⟨0xFC6D, "\u0628\u0646 \u0628\u0649 \u0628\u064a \u062a\u0631 \u062a\u0632 \u062a\u0645"⟩,
  ⟨0xFC73, "\u062a\u0646 \u062a\u0649 \u062a\u064a \u062b\u0631 \u062b\u0632 \u062b\u0645"⟩,
  ⟨0xFC79, "\u062b\u0646 \u062b\u0649 \u062b\u064a \u0641\u0649 \u0641\u064a \u0642\u0649"⟩,
  ⟨0xFC7F, "\u0642\u064a \u0643\u0627 \u0643\u0644 \u0643\u0645 \u0643\u0649 \u0643\u064a"⟩,
  ⟨0xFC85, "\u0644\u0645 \u0644\u0649 \u0644\u064a \u0645\u0627 \u0645\u0645 \u0646\u0631"⟩,
  ⟨0xFC8B, "\u0646\u0632 \u0646\u0645 \u0646\u0646 \u0646\u0649 \u0646\u064a \u0649\u0670"⟩,
  ⟨0xFC91, "\u064a\u0631 \u064a\u0632 \u064a\u0645 \u064a\u0646 \u064a\u0649 \u064a\u064a"⟩,
  ⟨0xFC97, "\u064a\u0654\u062c \u064a\u0654\u062d \u064a\u0654\u062e \u064a\u0654\u0645"⟩,
  ⟨0xFC9B, "\u064a\u0654\u0647 \u0628\u062c \u0628\u062d \u0628\u062e \u0628\u0645 \u0628\u0647"⟩,
  ⟨0xFCA1, "\u062a\u062c \u062a\u062d \u062a\u062e \u062a\u0645 \u062a\u0647 \u062b\u0645"⟩,
  ⟨0xFCA7, "\u062c\u062d \u062c\u0645 \u062d\u062c \u062d\u0645 \u062e\u062c \u062e\u0645"⟩,
  ⟨0xFCAD, "\u0633\u062c \u0633\u062d \u0633\u062e \u0633\u0645 \u0635\u062d \u0635\u062e"⟩,
  ⟨0xFCB3, "\u0635\u0645 \u0636\u062c \u0636\u062d \u0636\u062e \u0636\u0645 \u0637\u062d"⟩,
  ⟨0xFCB9, "\u0638\u0645 \u0639\u062c \u0639\u0645 \u063a\u062c \u063a\u0645 \u0641\u062c"⟩,
  ⟨0xFCBF, "\u0641\u062d \u0641\u062e \u0641\u0645 \u0642\u062d \u0642\u0645 \u0643\u062c"⟩,
  ⟨0xFCC5, "\u0643\u062d \u0643\u062e \u0643\u0644 \u0643\u0645 \u0644\u062c \u0644\u062d"⟩,
  ⟨0xFCCB, "\u0644\u062e \u0644\u0645 \u0644\u0647 \u0645\u062c \u0645\u062d \u0645\u062e"⟩,
  ⟨0xFCD1, "\u0645\u0645 \u0646\u062c \u0646\u062d \u0646\u062e \u0646\u0645 \u0646\u0647"⟩,
  ⟨0xFCD7, "\u0647\u062c \u0647\u0645 \u0647\u0670 \u064a\u062c \u064a\u062d \u064a\u062e"⟩,
  ⟨0xFCDD, "\u064a\u0645 \u064a\u0647 \u064a\u0654\u0645 \u064a\u0654\u0647 \u0628\u0645"⟩,
  ⟨0xFCE2, "\u0628\u0647 \u062a\u0645 \u062a\u0647 \u062b\u0645 \u062b\u0647 \u0633\u0645"⟩,
  ⟨0xFCE8, "\u0633\u0647 \u0634\u0645 \u0634\u0647 \u0643\u0644 \u0643\u0645 \u0644\u0645"⟩,
  ⟨0xFCEE, "\u0646\u0645 \u0646\u0647 \u064a\u0645 \u064a\u0647 \u0640\u064e\u0651"⟩,
  ⟨0xFCF3, "\u0640\u064f\u0651 \u0640\u0650\u0651 \u0637\u0649 \u0637\u064a \u0639\u0649"⟩,
  ⟨0xFCF8, "\u0639\u064a \u063a\u0649 \u063a\u064a \u0633\u0649 \u0633\u064a \u0634\u0649"⟩,
  ⟨0xFCFE, "\u0634\u064a \u062d\u0649 \u062d\u064a \u062c\u0649 \u062c\u064a \u062e\u0649"⟩,
  ⟨0xFD04, "\u062e\u064a \u0635\u0649 \u0635\u064a \u0636\u0649 \u0636\u064a \u0634\u062c"⟩,
  ⟨0xFD0A, "\u0634\u062d \u0634\u062e \u0634\u0645 \u0634\u0631 \u0633\u0631 \u0635\u0631"⟩,
  ⟨0xFD10, "\u0636\u0631 \u0637\u0649 \u0637\u064a \u0639\u0649 \u0639\u064a \u063a\u0649"⟩,
  ⟨0xFD16, "\u063a\u064a \u0633\u0649 \u0633\u064a \u0634\u0649 \u0634\u064a \u062d\u0649"⟩,
  ⟨0xFD1C, "\u062d\u064a \u062c\u0649 \u062c\u064a \u062e\u0649 \u062e\u064a \u0635\u0649"⟩,
  ⟨0xFD22, "\u0635\u064a \u0636\u0649 \u0636\u064a \u0634\u062c \u0634\u062d \u0634\u062e"⟩,
  ⟨0xFD28, "\u0634\u0645 \u0634\u0631 \u0633\u0631 \u0635\u0631 \u0636\u0631 \u0634\u062c"⟩,
  ⟨0xFD2E, "\u0634\u062d \u0634\u062e \u0634\u0645 \u0633\u0647 \u0634\u0647 \u0637\u0645"⟩,
  ⟨0xFD34, "\u0633\u062c \u0633\u062d \u0633\u062e \u0634\u062c \u0634\u062d \u0634\u062e"⟩,
  ⟨0xFD3A, "\u0637\u0645 \u0638\u0645 \u0627\u064b \u0627\u064b"⟩,
  ⟨0xFD50, "\u062a\u062c\u0645 \u062a\u062d\u062c \u062a\u062d\u062c \u062a\u062d\u0645"⟩,
  ⟨0xFD54, "\u062a\u062e\u0645 \u062a\u0645\u062c \u062a\u0645\u062d \u062a\u0645\u062e"⟩,
  ⟨0xFD58, "\u062c\u0645\u062d \u062c\u0645\u062d \u062d\u0645\u064a \u062d\u0645\u0649"⟩,
  ⟨0xFD5C, "\u0633\u062d\u062c \u0633\u062c\u062d \u0633\u062c\u0649 \u0633\u0645\u062d"⟩,
  ⟨0xFD60, "\u0633\u0645\u062d \u0633\u0645\u062c \u0633\u0645\u0645 \u0633\u0645\u0645"⟩,
  ⟨0xFD64, "\u0635\u062d\u062d \u0635\u062d\u062d \u0635\u0645\u0645 \u0634\u062d\u0645"⟩,
  ⟨0xFD68, "\u0634\u062d\u0645 \u0634\u062c\u064a \u0634\u0645\u062e \u0634\u0645\u062e"⟩,
  ⟨0xFD6C, "\u0634\u0645\u0645 \u0634\u0645\u0645 \u0636\u062d\u0649 \u0636\u062e\u0645"⟩,
  ⟨0xFD70, "\u0636\u062e\u0645 \u0637\u0645\u062d \u0637\u0645\u062d \u0637\u0645\u0645"⟩,
  ⟨0xFD74, "\u0637\u0645\u064a \u0639\u062c\u0645 \u0639\u0645\u0645 \u0639\u0645\u0645"⟩,
  ⟨0xFD78, "\u0639\u0645\u0649 \u063a\u0645\u0645 \u063a\u0645\u064a \u063a\u0645\u0649"⟩,
  ⟨0xFD7C, "\u0641\u062e\u0645 \u0641\u062e\u0645 \u0642\u0645\u062d \u0642\u0645\u0645"⟩,
  ⟨0xFD80, "\u0644\u062d\u0645 \u0644\u062d\u064a \u0644\u062d\u0649 \u0644\u062c\u062c"⟩,
  ⟨0xFD84, "\u0644\u062c\u062c \u0644\u062e\u0645 \u0644\u062e\u0645 \u0644\u0645\u062d"⟩,
  ⟨0xFD88, "\u0644\u0645\u062d \u0645\u062d\u062c \u0645\u062d\u0645 \u0645\u062d\u064a"⟩,
  ⟨0xFD8C, "\u0645\u062c\u062d \u0645\u062c\u0645 \u0645\u062e\u062c \u0645\u062e\u0645"⟩,
  ⟨0xFD92, "\u0645\u062c\u062e \u0647\u0645\u062c \u0647\u0645\u0645 \u0646\u062d\u0645"⟩,
  ⟨0xFD96, "\u0646\u062d\u0649 \u0646\u062c\u0645 \u0646\u062c\u0645 \u0646\u062c\u0649"⟩,
  ⟨0xFD9A, "\u0646\u0645\u064a \u0646\u0645\u0649 \u064a\u0645\u0645 \u064a\u0645\u0645"⟩,
  ⟨0xFD9E, "\u0628\u062e\u064a \u062a\u062c\u064a \u062a\u062c\u0649 \u062a\u062e\u064a"⟩,
  ⟨0xFDA2, "\u062a\u062e\u0649 \u062a\u0645\u064a \u062a\u0645\u0649 \u062c\u0645\u064a"⟩,
  ⟨0xFDA6, "\u062c\u062d\u0649 \u062c\u0645\u0649 \u0633\u062e\u0649 \u0635\u062d\u064a"⟩,
  ⟨0xFDAA, "\u0634\u062d\u064a \u0636\u062d\u064a \u0644\u062c\u064a \u0644\u0645\u064a"⟩,
  ⟨0xFDAE, "\u064a\u062d\u064a \u064a\u062c\u064a \u064a\u0645\u064a \u0645\u0645\u064a"⟩,
  ⟨0xFDB2, "\u0642\u0645\u064a \u0646\u062d\u064a \u0642\u0645\u062d \u0644\u062d\u0645"⟩,
  ⟨0xFDB6, "\u0639\u0645\u064a \u0643\u0645\u064a \u0646\u062c\u062d \u0645\u062e\u064a"⟩,
  ⟨0xFDBA, "\u0644\u062c\u0645 \u0643\u0645\u0645 \u0644\u062c\u0645 \u0646\u062c\u062d"⟩,
  ⟨0xFDBE, "\u062c\u062d\u064a \u062d\u062c\u064a \u0645\u062c\u064a \u0641\u0645\u064a"⟩,
  ⟨0xFDC2, "\u0628\u062d\u064a \u0643\u0645\u0645 \u0639\u062c\u0645 \u0635\u0645\u0645"⟩,
  ⟨0xFDC6, "\u0633\u062e\u064a \u0646\u062c\u064a"⟩,
  ⟨0xFDF0, "\u0635\u0644\u06d2 \u0642\u0644\u06d2 \u0627\u0644\u0644\u0647"⟩,
  ⟨0xFDF3, "\u0627\u0643\u0628\u0631 \u0645\u062d\u0645\u062f \u0635\u0644\u0639\u0645"⟩,
  ⟨0xFDF6, "\u0631\u0633\u0648\u0644 \u0639\u0644\u064a\u0647 \u0648\u0633\u0644\u0645"⟩,
  ⟨0xFDF9, "\u0635\u0644\u0649"⟩, ⟨0xFE33, "_ _"⟩, ⟨0xFE4D, "_ _ _"⟩, ⟨0xFE71, "\u0640\u064b"⟩,
  ⟨0xFE77, "\u0640\u064e"⟩, ⟨0xFE79, "\u0640\u064f"⟩, ⟨0xFE7B, "\u0640\u0650"⟩,
  ⟨0xFE7D, "\u0640\u0651"⟩,
  ⟨0xFE7F, "\u0640\u0652 \u0621 \u0627\u0653 \u0627\u0653 \u0627\u0654 \u0627\u0654 \u0648\u0654"⟩,
  ⟨0xFE86, "\u0648\u0654 \u0627\u0655 \u0627\u0655 \u064a\u0654 \u064a\u0654 \u064a\u0654"⟩,
  ⟨0xFE8C, "\u064a\u0654 \u0627 \u0627 \u0628 \u0628 \u0628 \u0628 \u0629 \u0629 \u062a \u062a"⟩,
  ⟨0xFE97, "\u062a \u062a \u062b \u062b \u062b \u062b \u062c \u062c \u062c \u062c \u062d \u062d"⟩,
  ⟨0xFEA3, "\u062d \u062d \u062e \u062e \u062e \u062e \u062f \u062f \u0630 \u0630 \u0631 \u0631"⟩,
  ⟨0xFEAF, "\u0632 \u0632 \u0633 \u0633 \u0633 \u0633 \u0634 \u0634 \u0634 \u0634 \u0635 \u0635"⟩,
  ⟨0xFEBB, "\u0635 \u0635 \u0636 \u0636 \u0636 \u0636 \u0637 \u0637 \u0637 \u0637 \u0638 \u0638"⟩,
  ⟨0xFEC7, "\u0638 \u0638 \u0639 \u0639 \u0639 \u0639 \u063a \u063a \u063a \u063a \u0641 \u0641"⟩,
  ⟨0xFED3, "\u0641 \u0641 \u0642 \u0642 \u0642 \u0642 \u0643 \u0643 \u0643 \u0643 \u0644 \u0644"⟩,
  ⟨0xFEDF, "\u0644 \u0644 \u0645 \u0645 \u0645 \u0645 \u0646 \u0646 \u0646 \u0646 \u0647 \u0647"⟩,
  ⟨0xFEEB, "\u0647 \u0647 \u0648 \u0648 \u0649 \u0649 \u064a \u064a \u064a \u064a"⟩,
  ⟨0xFEF5, "\u0644\u0627\u0653 \u0644\u0627\u0653 \u0644\u0627\u0654 \u0644\u0627\u0654"⟩,
  ⟨0xFEF9, "\u0644\u0627\u0655 \u0644\u0627\u0655 \u0644\u0627 \u0644\u0627"⟩,
  ⟨0xFF10, "0 1 2 3 4 5 6 7 8 9"⟩, ⟨0xFF21, "A B C D E F G H I J K L M N O P Q R S T U V W X Y Z"⟩,
  ⟨0xFF3F, "_"⟩, ⟨0xFF41, "a b c d e f g h i j k l m n o p q r s t u v w x y z"⟩,
  ⟨0xFF66, "ヲ ァ ィ ゥ ェ ォ ャ ュ ョ ッ \u30fc ア イ ウ エ オ カ キ ク ケ コ サ シ ス セ ソ タ チ ツ テ ト ナ ニ ヌ ネ ノ ハ ヒ フ ヘ"⟩,
  ⟨0xFF8E, "ホ マ ミ ム メ モ ヤ ユ ヨ ラ リ ル レ ロ ワ ン \u3099 \u309a ᅠ ᄀ ᄁ ᆪ ᄂ ᆬ ᆭ ᄃ ᄄ ᄅ ᆰ ᆱ ᆲ ᆳ ᆴ ᆵ ᄚ ᄆ ᄇ ᄈ"⟩,
  ⟨0xFFB4, "ᄡ ᄉ ᄊ ᄋ ᄌ ᄍ ᄎ ᄏ ᄐ ᄑ ᄒ"⟩, ⟨0xFFC2, "ᅡ ᅢ ᅣ ᅤ ᅥ ᅦ"⟩, ⟨0xFFCA, "ᅧ ᅨ ᅩ ᅪ ᅫ ᅬ"⟩,
  ⟨0xFFD2, "ᅭ ᅮ ᅯ ᅰ ᅱ ᅲ"⟩, ⟨0xFFDA, "ᅳ ᅴ ᅵ"⟩, ⟨0x10781, "\u02d0 \u02d1 æ ʙ ɓ"⟩,
  ⟨0x10787, "ʣ ꭦ ʥ ʤ ɖ ɗ ᶑ ɘ ɞ ʩ ɤ ɢ ɠ ʛ ħ ʜ ɧ ʄ ʪ ʫ ɬ 𝼄 ꞎ ɮ 𝼅 ʎ 𝼆 ø ɶ ɷ q ɺ 𝼈 ɽ ɾ ʀ ʨ ʦ ꭧ ʧ ʈ ⱱ"⟩,
  ⟨0x107B2, "ʏ ʡ ʢ ʘ ǀ ǁ ǂ 𝼊 𝼞"⟩, ⟨0x1109A, "𑂚 𑂛 𑂜"⟩, ⟨0x110AB, "𑂫"⟩, ⟨0x1112E, "𑄮 𑄯"⟩,
  ⟨0x1134B, "𑍋 𑍌"⟩, ⟨0x114BB, "𑒻 𑒼"⟩, ⟨0x114BE, "𑒾"⟩, ⟨0x115BA, "𑖺 𑖻"⟩, ⟨0x11938, "𑤸"⟩,
  ⟨0x1D400, "A B C D E F G H I J K L M N O P Q R S T U V W X Y Z a b c d e f g h i j k l m n o p"⟩,
  ⟨0x1D42A, "q r s t u v w x y z A B C D E F G H I J K L M N O P Q R S T U V W X Y Z a b c d e f"⟩,
  ⟨0x1D454, "g"⟩,
  ⟨0x1D456, "i j k l m n o p q r s t u v w x y z A B C D E F G H I J K L M N O P Q R S T U V W X"⟩,
  ⟨0x1D480, "Y Z a b c d e f g h i j k l m n o p q r s t u v w x y z A"⟩, ⟨0x1D49E, "C D"⟩,
  ⟨0x1D4A2, "G"⟩, ⟨0x1D4A5, "J K"⟩, ⟨0x1D4A9, "N O P Q"⟩, ⟨0x1D4AE, "S T U V W X Y Z a b c d"⟩,
  ⟨0x1D4BB, "f"⟩, ⟨0x1D4BD, "h i j k l m n"⟩,
  ⟨0x1D4C5, "p q r s t u v w x y z A B C D E F G H I J K L M N O P Q R S T U V W X Y Z a b c d e"⟩,
  ⟨0x1D4EF, "f g h i j k l m n o p q r s t u v w x y z A B"⟩, ⟨0x1D507, "D E F G"⟩,
  ⟨0x1D50D, "J K L M N O P Q"⟩, ⟨0x1D516, "S T U V W X Y"⟩,
  ⟨0x1D51E, "a b c d e f g h i j k l m n o p q r s t u v w x y z A B"⟩, ⟨0x1D53B, "D E F G"⟩,
  ⟨0x1D540, "I J K L M"⟩, ⟨0x1D546, "O"⟩, ⟨0x1D54A, "S T U V W X Y"⟩,
  ⟨0x1D552, "a b c d e f g h i j k l m n o p q r s t u v w x y z A B C D E F G H I J K L M N O P"⟩,
  ⟨0x1D57C, "Q R S T U V W X Y Z a b c d e f g h i j k l m n o p q r s t u v w x y z A B C D E F"⟩,
  ⟨0x1D5A6, "G H I J K L M N O P Q R S T U V W X Y Z a b c d e f g h i j k l m n o p q r s t u v"⟩,
  ⟨0x1D5D0, "w x y z A B C D E F G H I J K L M N O P Q R S T U V W X Y Z a b c d e f g h i j k l"⟩,
  ⟨0x1D5FA, "m n o p q r s t u v w x y z A B C D E F G H I J K L M N O P Q R S T U V W X Y Z a b"⟩,
  ⟨0x1D624, "c d e f g h i j k l m n o p q r s t u v w x y z A B C D E F G H I J K L M N O P Q R"⟩,
  ⟨0x1D64E, "S T U V W X Y Z a b c d e f g h i j k l m n o p q r s t u v w x y z A B C D E F G H"⟩,
  ⟨0x1D678, "I J K L M N O P Q R S T U V W X Y Z a b c d e f g h i j k l m n o p q r s t u v w x"⟩,
  ⟨0x1D6A2, "y z ı ȷ"⟩, ⟨0x1D6A8, "Α Β Γ Δ Ε Ζ Η Θ Ι Κ Λ Μ Ν Ξ Ο Π Ρ Θ Σ Τ Υ Φ Χ Ψ Ω"⟩,
  ⟨0x1D6C2, "α β γ δ ε ζ η θ ι κ λ μ ν ξ ο π ρ ς σ τ υ φ χ ψ ω"⟩,
  ⟨0x1D6DC, "ε θ κ φ ρ π Α Β Γ Δ Ε Ζ Η Θ Ι Κ Λ Μ Ν Ξ Ο Π Ρ Θ Σ Τ Υ Φ Χ Ψ Ω"⟩,
  ⟨0x1D6FC, "α β γ δ ε ζ η θ ι κ λ μ ν ξ ο π ρ ς σ τ υ φ χ ψ ω"⟩,
  ⟨0x1D716, "ε θ κ φ ρ π Α Β Γ Δ Ε Ζ Η Θ Ι Κ Λ Μ Ν Ξ Ο Π Ρ Θ Σ Τ Υ Φ Χ Ψ Ω"⟩,
  ⟨0x1D736, "α β γ δ ε ζ η θ ι κ λ μ ν ξ ο π ρ ς σ τ υ φ χ ψ ω"⟩,
  ⟨0x1D750, "ε θ κ φ ρ π Α Β Γ Δ Ε Ζ Η Θ Ι Κ Λ Μ Ν Ξ Ο Π Ρ Θ Σ Τ Υ Φ Χ Ψ Ω"⟩,
  ⟨0x1D770, "α β γ δ ε ζ η θ ι κ λ μ ν ξ ο π ρ ς σ τ υ φ χ ψ ω"⟩,
  ⟨0x1D78A, "ε θ κ φ ρ π Α Β Γ Δ Ε Ζ Η Θ Ι Κ Λ Μ Ν Ξ Ο Π Ρ Θ Σ Τ Υ Φ Χ Ψ Ω"⟩,
  ⟨0x1D7AA, "α β γ δ ε ζ η θ ι κ λ μ ν ξ ο π ρ ς σ τ υ φ χ ψ ω"⟩, ⟨0x1D7C4, "ε θ κ φ ρ π Ϝ ϝ"⟩,
  ⟨0x1D7CE, "0 1 2 3 4 5 6 7 8 9 0 1 2 3 4 5 6 7 8 9 0 1 2 3 4 5 6 7 8 9 0 1 2 3 4 5 6 7 8 9 0 1"⟩,
  ⟨0x1D7F8, "2 3 4 5 6 7 8 9"⟩, ⟨0x1EE00, "\u0627 \u0628 \u062c \u062f"⟩,
  ⟨0x1EE05, "\u0648 \u0632 \u062d \u0637 \u064a \u0643 \u0644 \u0645 \u0646 \u0633 \u0639 \u0641"⟩,
  ⟨0x1EE11, "\u0635 \u0642 \u0631 \u0634 \u062a \u062b \u062e \u0630 \u0636 \u0638 \u063a \u066e"⟩,
  ⟨0x1EE1D, "\u06ba \u06a1 \u066f"⟩, ⟨0x1EE21, "\u0628 \u062c"⟩, ⟨0x1EE24, "\u0647"⟩,
  ⟨0x1EE27, "\u062d"⟩,
  ⟨0x1EE29, "\u064a \u0643 \u0644 \u0645 \u0646 \u0633 \u0639 \u0641 \u0635 \u0642"⟩,
  ⟨0x1EE34, "\u0634 \u062a \u062b \u062e"⟩, ⟨0x1EE39, "\u0636"⟩, ⟨0x1EE3B, "\u063a"⟩,
  ⟨0x1EE42, "\u062c"⟩, ⟨0x1EE47, "\u062d"⟩, ⟨0x1EE49, "\u064a"⟩, ⟨0x1EE4B, "\u0644"⟩,
  ⟨0x1EE4D, "\u0646 \u0633 \u0639"⟩, ⟨0x1EE51, "\u0635 \u0642"⟩, ⟨0x1EE54, "\u0634"⟩,
  ⟨0x1EE57, "\u062e"⟩, ⟨0x1EE59, "\u0636"⟩, ⟨0x1EE5B, "\u063a"⟩, ⟨0x1EE5D, "\u06ba"⟩,
  ⟨0x1EE5F, "\u066f"⟩, ⟨0x1EE61, "\u0628 \u062c"⟩, ⟨0x1EE64, "\u0647"⟩,
  ⟨0x1EE67, "\u062d \u0637 \u064a \u0643"⟩,
  ⟨0x1EE6C, "\u0645 \u0646 \u0633 \u0639 \u0641 \u0635 \u0642"⟩,
  ⟨0x1EE74, "\u0634 \u062a \u062b \u062e"⟩, ⟨0x1EE79, "\u0636 \u0638 \u063a \u066e"⟩,
  ⟨0x1EE7E, "\u06a1"⟩,
  ⟨0x1EE80, "\u0627 \u0628 \u062c \u062f \u0647 \u0648 \u0632 \u062d \u0637 \u064a"⟩,
  ⟨0x1EE8B, "\u0644 \u0645 \u0646 \u0633 \u0639 \u0641 \u0635 \u0642 \u0631 \u0634 \u062a \u062b"⟩,
  ⟨0x1EE97, "\u062e \u0630 \u0636 \u0638 \u063a"⟩, ⟨0x1EEA1, "\u0628 \u062c \u062f"⟩,
  ⟨0x1EEA5, "\u0648 \u0632 \u062d \u0637 \u064a"⟩,
  ⟨0x1EEAB, "\u0644 \u0645 \u0646 \u0633 \u0639 \u0641 \u0635 \u0642 \u0631 \u0634 \u062a \u062b"⟩,
  ⟨0x1EEB7, "\u062e \u0630 \u0636 \u0638 \u063a"⟩, ⟨0x1FBF0, "0 1 2 3 4 5 6 7 8 9"⟩,
  ⟨0x2F800, "丽 丸 乁 𠄢 你 侮 侻 倂 偺 備 僧 像 㒞 𠘺 免 兔 兤 具 𠔜 㒹 內 再 𠕋 冗 冤 仌 冬 况 𩇟 凵 刃 㓟 刻 剆 割 剷 㔕 勇 勉 勤 勺 包"⟩,
  ⟨0x2F82A, "匆 北 卉 卑 博 即 卽 卿 卿 卿 𠨬 灰 及 叟 𠭣 叫 叱 吆 咞 吸 呈 周 咢 哶 唐 啓 啣 善 善 喙 喫 喳 嗂 圖 嘆 圗 噑 噴 切 壮 城 埴"⟩,
  ⟨0x2F854, "堍 型 堲 報 墬 𡓤 売 壷 夆 多 夢 奢 𡚨 𡛪 姬 娛 娧 姘 婦 㛮 㛼 嬈 嬾 嬾 𡧈 寃 寘 寧 寳 𡬘 寿 将 当 尢 㞁 屠 屮 峀 岍 𡷤 嵃 𡷦"⟩,
  ⟨0x2F87E, "嵮 嵫 嵼 巡 巢 㠯 巽 帨 帽 幩 㡢 𢆃 㡼 庰 庳 庶 廊 𪎒 廾 𢌱 𢌱 舁 弢 弢 㣇 𣊸 𦇚 形 彫 㣣 徚 忍 志 忹 悁 㤺 㤜 悔 𢛔 惇 慈 慌"⟩,
  ⟨0x2F8A8, "慎 慌 慺 憎 憲 憤 憯 懞 懲 懶 成 戛 扝 抱 拔 捐 𢬌 挽 拼 捨 掃 揤 𢯱 搢 揅 掩 㨮 摩 摾 撝 摷 㩬 敏 敬 𣀊 旣 書 晉 㬙 暑 㬈 㫤"⟩,
  ⟨0x2F8D2, "冒 冕 最 暜 肭 䏙 朗 望 朡 杞 杓 𣏃 㭉 柺 枅 桒 梅 𣑭 梎 栟 椔 㮝 楂 榣 槪 檨 𣚣 櫛 㰘 次 𣢧 歔 㱎 歲 殟 殺 殻 𣪍 𡴋 𣫺 汎 𣲼"⟩,
  ⟨0x2F8FC, "沿 泍 汧 洖 派 海 流 浩 浸 涅 𣴞 洴 港 湮 㴳 滋 滇 𣻑 淹 潮 𣽞 𣾎 濆 瀹 瀞 瀛 㶖 灊 災 灷 炭 𠔥 煅 𤉣 熜 𤎫 爨 爵 牐 𤘈 犀 犕"⟩,
  ⟨0x2F926, "𤜵 𤠔 獺 王 㺬 玥 㺸 㺸 瑇 瑜 瑱 璅 瓊 㼛 甤 𤰶 甾 𤲒 異 𢆟 瘐 𤾡 𤾸 𥁄 㿼 䀈 直 𥃳 𥃲 𥄙 𥄳 眞 真 真 睊 䀹 瞋 䁆 䂖 𥐝 硎 碌"⟩,
  ⟨0x2F950, "磌 䃣 𥘦 祖 𥚚 𥛅 福 秫 䄯 穀 穊 穏 𥥼 𥪧 𥪧 竮 䈂 𥮫 篆 築 䈧 𥲀 糒 䊠 糨 糣 紀 𥾆 絣 䌁 緇 縂 繅 䌴 𦈨 𦉇 䍙 𦋙 罺 𦌾 羕 翺"⟩,
  ⟨0x2F97A, "者 𦓚 𦔣 聠 𦖨 聰 𣍟 䏕 育 脃 䐋 脾 媵 𦞧 𦞵 𣎓 𣎜 舁 舄 辞 䑫 芑 芋 芝 劳 花 芳 芽 苦 𦬼 若 茝 荣 莭 茣 莽 菧 著 荓 菊 菌 菜"⟩,
  ⟨0x2F9A4, "𦰶 𦵫 𦳕 䔫 蓱 蓳 蔖 𧏊 蕤 𦼬 䕝 䕡 𦾱 𧃒 䕫 虐 虜 虧 虩 蚩 蚈 蜎 蛢 蝹 蜨 蝫 螆 䗗 蟡 蠁 䗹 衠 衣 𧙧 裗 裞 䘵 裺 㒻 𧢮 𧥦 䚾"⟩,
  ⟨0x2F9CE, "䛇 誠 諭 變 豕 𧲨 貫 賁 贛 起 𧼯 𠠄 跋 趼 跰 𠣞 軔 輸 𨗒 𨗭 邔 郱 鄑 𨜮 鄛 鈸 鋗 鋘 鉼 鏹 鐕 𨯺 開 䦕 閷 𨵷 䧦 雃 嶲 霣 𩅅 𩈚"⟩,
  ⟨0x2F9F8, "䩮 䩶 韠 𩐊 䪲 𩒖 頋 頋 頩 𩖶 飢 䬳 餩 馧 駂 駾 䯎 𩬰 鬒 鱀 鳽 䳎 䳭 鵧 𪃎 䳸 𪄅 𪈎 𪊑 麻 䵖 黹 黾 鼅 鼏 鼖 鼻 𪘀"⟩]

/-- The marks of a class, whose number says how far behind the character they go. -/
structure MarkClass where
  number : Nat
  marks : CodeSet

/-- The classes of all marks. -/
def markClasses : List MarkClass := [
  ⟨1, ⟨[0x334, 0x339, 0x1CD4, 0x1CD5, 0x1CE2, 0x1CE9, 0x20D2, 0x20D4, 0x20D8, 0x20DB, 0x20E5,
    0x20E7, 0x20EA, 0x20EC, 0x10A39, 0x10A3A, 0x16AF0, 0x16AF5, 0x1BC9E, 0x1BC9F, 0x1D167,
    0x1D16A]⟩⟩,
  ⟨6, ⟨[0x16FF0, 0x16FF2]⟩⟩,
  ⟨7, ⟨[0x93C, 0x93D, 0x9BC, 0x9BD, 0xA3C, 0xA3D, 0xABC, 0xABD, 0xB3C, 0xB3D, 0xC3C, 0xC3D, 0xCBC,
    0xCBD, 0x1037, 0x1038, 0x1B34, 0x1B35, 0x1BE6, 0x1BE7, 0x1C37, 0x1C38, 0xA9B3, 0xA9B4, 0x110BA,
    0x110BB, 0x11173, 0x11174, 0x111CA, 0x111CB, 0x11236, 0x11237, 0x112E9, 0x112EA, 0x1133B,
    0x1133D, 0x11446, 0x11447, 0x114C3, 0x114C4, 0x115C0, 0x115C1, 0x116B7, 0x116B8, 0x1183A,
    0x1183B, 0x11943, 0x11944, 0x11D42, 0x11D43, 0x1E94A, 0x1E94B]⟩⟩,
  ⟨8, ⟨[0x3099, 0x309B]⟩⟩,
  ⟨9, ⟨[0x94D, 0x94E, 0x9CD, 0x9CE, 0xA4D, 0xA4E, 0xACD, 0xACE, 0xB4D, 0xB4E, 0xBCD, 0xBCE, 0xC4D,
    0xC4E, 0xCCD, 0xCCE, 0xD3B, 0xD3D, 0xD4D, 0xD4E, 0xDCA, 0xDCB, 0xE3A, 0xE3B, 0xEBA, 0xEBB,
    0xF84, 0xF85, 0x1039, 0x103B, 0x1714, 0x1716, 0x1734, 0x1735, 0x17D2, 0x17D3, 0x1A60, 0x1A61,
    0x1B44, 0x1B45, 0x1BAA, 0x1BAC, 0x1BF2, 0x1BF4, 0x2D7F, 0x2D80, 0xA806, 0xA807, 0xA82C, 0xA82D,
    0xA8C4, 0xA8C5, 0xA953, 0xA954, 0xA9C0, 0xA9C1, 0xAAF6, 0xAAF7, 0xABED, 0xABEE, 0x10A3F,
    0x10A40, 0x11046, 0x11047, 0x11070, 0x11071, 0x1107F, 0x11080, 0x110B9, 0x110BA, 0x11133,
    0x11135, 0x111C0, 0x111C1, 0x11235, 0x11236, 0x112EA, 0x112EB, 0x1134D, 0x1134E, 0x11442,
    0x11443, 0x114C2, 0x114C3, 0x115BF, 0x115C0, 0x1163F, 0x11640, 0x116B6, 0x116B7, 0x1172B,
    0x1172C, 0x11839, 0x1183A, 0x1193D, 0x1193F, 0x119E0, 0x119E1, 0x11A34, 0x11A35, 0x11A47,
    0x11A48, 0x11A99, 0x11A9A, 0x11C3F, 0x11C40, 0x11D44, 0x11D46, 0x11D97, 0x11D98]⟩⟩,
  ⟨10, ⟨[0x5B0, 0x5B1]⟩⟩, ⟨11, ⟨[0x5B1, 0x5B2]⟩⟩, ⟨12, ⟨[0x5B2, 0x5B3]⟩⟩, ⟨13, ⟨[0x5B3, 0x5B4]⟩⟩,
  ⟨14, ⟨[0x5B4, 0x5B5]⟩⟩, ⟨15, ⟨[0x5B5, 0x5B6]⟩⟩, ⟨16, ⟨[0x5B6, 0x5B7]⟩⟩, ⟨17, ⟨[0x5B7, 0x5B8]⟩⟩,
  ⟨18, ⟨[0x5B8, 0x5B9, 0x5C7, 0x5C8]⟩⟩, ⟨19, ⟨[0x5B9, 0x5BB]⟩⟩, ⟨20, ⟨[0x5BB, 0x5BC]⟩⟩,
  ⟨21, ⟨[0x5BC, 0x5BD]⟩⟩, ⟨22, ⟨[0x5BD, 0x5BE]⟩⟩, ⟨23, ⟨[0x5BF, 0x5C0]⟩⟩, ⟨24, ⟨[0x5C1, 0x5C2]⟩⟩,
  ⟨25, ⟨[0x5C2, 0x5C3]⟩⟩, ⟨26, ⟨[0xFB1E, 0xFB1F]⟩⟩, ⟨27, ⟨[0x64B, 0x64C, 0x8F0, 0x8F1]⟩⟩,
  ⟨28, ⟨[0x64C, 0x64D, 0x8F1, 0x8F2]⟩⟩, ⟨29, ⟨[0x64D, 0x64E, 0x8F2, 0x8F3]⟩⟩,
  ⟨30, ⟨[0x618, 0x619, 0x64E, 0x64F]⟩⟩, ⟨31, ⟨[0x619, 0x61A, 0x64F, 0x650]⟩⟩,
  ⟨32, ⟨[0x61A, 0x61B, 0x650, 0x651]⟩⟩, ⟨33, ⟨[0x651, 0x652]⟩⟩, ⟨34, ⟨[0x652, 0x653]⟩⟩,
  ⟨35, ⟨[0x670, 0x671]⟩⟩, ⟨36, ⟨[0x711, 0x712]⟩⟩, ⟨84, ⟨[0xC55, 0xC56]⟩⟩, ⟨91, ⟨[0xC56, 0xC57]⟩⟩,
  ⟨103, ⟨[0xE38, 0xE3A]⟩⟩, ⟨107, ⟨[0xE48, 0xE4C]⟩⟩, ⟨118, ⟨[0xEB8, 0xEBA]⟩⟩,
  ⟨122, ⟨[0xEC8, 0xECC]⟩⟩, ⟨129, ⟨[0xF71, 0xF72]⟩⟩,
  ⟨130, ⟨[0xF72, 0xF73, 0xF7A, 0xF7E, 0xF80, 0xF81]⟩⟩, ⟨132, ⟨[0xF74, 0xF75]⟩⟩,
  ⟨202, ⟨[0x321, 0x323, 0x327, 0x329, 0x1DD0, 0x1DD1]⟩⟩, ⟨214, ⟨[0x1DCE, 0x1DCF]⟩⟩,
  ⟨216, ⟨[0x31B, 0x31C, 0xF39, 0xF3A, 0x1D165, 0x1D167, 0x1D16E, 0x1D173]⟩⟩,
  ⟨218, ⟨[0x1DFA, 0x1DFB, 0x302A, 0x302B]⟩⟩,
  ⟨220, ⟨[0x316, 0x31A, 0x31C, 0x321, 0x323, 0x327, 0x329, 0x334, 0x339, 0x33D, 0x347, 0x34A,
    0x34D, 0x34F, 0x353, 0x357, 0x359, 0x35B, 0x591, 0x592, 0x596, 0x597, 0x59B, 0x59C, 0x5A2,
    0x5A8, 0x5AA, 0x5AB, 0x5C5, 0x5C6, 0x655, 0x657, 0x65C, 0x65D, 0x65F, 0x660, 0x6E3, 0x6E4,
    0x6EA, 0x6EB, 0x6ED, 0x6EE, 0x731, 0x732, 0x734, 0x735, 0x737, 0x73A, 0x73B, 0x73D, 0x73E,
    0x73F, 0x742, 0x743, 0x744, 0x745, 0x746, 0x747, 0x748, 0x749, 0x7F2, 0x7F3, 0x7FD, 0x7FE,
    0x859, 0x85C, 0x899, 0x89C, 0x8CF, 0x8D4, 0x8E3, 0x8E4, 0x8E6, 0x8E7, 0x8E9, 0x8EA, 0x8ED,
    0x8F0, 0x8F6, 0x8F7, 0x8F9, 0x8FB, 0x952, 0x953, 0xF18, 0xF1A, 0xF35, 0xF36, 0xF37, 0xF38,
    0xFC6, 0xFC7, 0x108D, 0x108E, 0x193B, 0x193C, 0x1A18, 0x1A19, 0x1A7F, 0x1A80, 0x1AB5, 0x1ABB,
    0x1ABD, 0x1ABE, 0x1ABF, 0x1AC1, 0x1AC3, 0x1AC5, 0x1ACA, 0x1ACB, 0x1B6C, 0x1B6D, 0x1CD5, 0x1CDA,
    0x1CDC, 0x1CE0, 0x1CED, 0x1CEE, 0x1DC2, 0x1DC3, 0x1DCA, 0x1DCB, 0x1DCF, 0x1DD0, 0x1DF9, 0x1DFA,
    0x1DFD, 0x1DFE, 0x1DFF, 0x1E00, 0x20E8, 0x20E9, 0x20EC, 0x20F0, 0xA92B, 0xA92E, 0xAAB4, 0xAAB5,
    0xFE27, 0xFE2E, 0x101FD, 0x101FE, 0x102E0, 0x102E1, 0x10A0D, 0x10A0E, 0x10A3A, 0x10A3B,
    0x10AE6, 0x10AE7, 0x10F46, 0x10F48, 0x10F4B, 0x10F4C, 0x10F4D, 0x10F51, 0x10F83, 0x10F84,
    0x10F85, 0x10F86, 0x1D17B, 0x1D183, 0x1D18A, 0x1D18C, 0x1E8D0, 0x1E8D7]⟩⟩,
  ⟨222, ⟨[0x59A, 0x59B, 0x5AD, 0x5AE, 0x1939, 0x193A, 0x302D, 0x302E]⟩⟩, ⟨224, ⟨[0x302E, 0x3030]⟩⟩,
  ⟨226, ⟨[0x1D16D, 0x1D16E]⟩⟩,
  ⟨228, ⟨[0x5AE, 0x5AF, 0x18A9, 0x18AA, 0x1DF7, 0x1DF9, 0x302B, 0x302C]⟩⟩,
  ⟨230, ⟨[0x300, 0x315, 0x33D, 0x345, 0x346, 0x347, 0x34A, 0x34D, 0x350, 0x353, 0x357, 0x358,
    0x35B, 0x35C, 0x363, 0x370, 0x483, 0x488, 0x592, 0x596, 0x597, 0x59A, 0x59C, 0x5A2, 0x5A8,
    0x5AA, 0x5AB, 0x5AD, 0x5AF, 0x5B0, 0x5C4, 0x5C5, 0x610, 0x618, 0x653, 0x655, 0x657, 0x65C,
    0x65D, 0x65F, 0x6D6, 0x6DD, 0x6DF, 0x6E3, 0x6E4, 0x6E5, 0x6E7, 0x6E9, 0x6EB, 0x6ED, 0x730,
    0x731, 0x732, 0x734, 0x735, 0x737, 0x73A, 0x73B, 0x73D, 0x73E, 0x73F, 0x742, 0x743, 0x744,
    0x745, 0x746, 0x747, 0x748, 0x749, 0x74B, 0x7EB, 0x7F2, 0x7F3, 0x7F4, 0x816, 0x81A, 0x81B,
    0x824, 0x825, 0x828, 0x829, 0x82E, 0x898, 0x899, 0x89C, 0x8A0, 0x8CA, 0x8CF, 0x8D4, 0x8E2,
    0x8E4, 0x8E6, 0x8E7, 0x8E9, 0x8EA, 0x8ED, 0x8F3, 0x8F6, 0x8F7, 0x8F9, 0x8FB, 0x900, 0x951,
    0x952, 0x953, 0x955, 0x9FE, 0x9FF, 0xF82, 0xF84, 0xF86, 0xF88, 0x135D, 0x1360, 0x17DD, 0x17DE,
    0x193A, 0x193B, 0x1A17, 0x1A18, 0x1A75, 0x1A7D, 0x1AB0, 0x1AB5, 0x1ABB, 0x1ABD, 0x1AC1, 0x1AC3,
    0x1AC5, 0x1ACA, 0x1ACB, 0x1ACF, 0x1B6B, 0x1B6C, 0x1B6D, 0x1B74, 0x1CD0, 0x1CD3, 0x1CDA, 0x1CDC,
    0x1CE0, 0x1CE1, 0x1CF4, 0x1CF5, 0x1CF8, 0x1CFA, 0x1DC0, 0x1DC2, 0x1DC3, 0x1DCA, 0x1DCB, 0x1DCD,
    0x1DD1, 0x1DF6, 0x1DFB, 0x1DFC, 0x1DFE, 0x1DFF, 0x20D0, 0x20D2, 0x20D4, 0x20D8, 0x20DB, 0x20DD,
    0x20E1, 0x20E2, 0x20E7, 0x20E8, 0x20E9, 0x20EA, 0x20F0, 0x20F1, 0x2CEF, 0x2CF2, 0x2DE0, 0x2E00,
    0xA66F, 0xA670, 0xA674, 0xA67E, 0xA69E, 0xA6A0, 0xA6F0, 0xA6F2, 0xA8E0, 0xA8F2, 0xAAB0, 0xAAB1,
    0xAAB2, 0xAAB4, 0xAAB7, 0xAAB9, 0xAABE, 0xAAC0, 0xAAC1, 0xAAC2, 0xFE20, 0xFE27, 0xFE2E, 0xFE30,
    0x10376, 0x1037B, 0x10A0F, 0x10A10, 0x10A38, 0x10A39, 0x10AE5, 0x10AE6, 0x10D24, 0x10D28,
    0x10EAB, 0x10EAD, 0x10F48, 0x10F4B, 0x10F4C, 0x10F4D, 0x10F82, 0x10F83, 0x10F84, 0x10F85,
    0x11100, 0x11103, 0x11366, 0x1136D, 0x11370, 0x11375, 0x1145E, 0x1145F, 0x16B30, 0x16B37,
    0x1D185, 0x1D18A, 0x1D1AA, 0x1D1AE, 0x1D242, 0x1D245, 0x1E000, 0x1E007, 0x1E008, 0x1E019,
    0x1E01B, 0x1E022, 0x1E023, 0x1E025, 0x1E026, 0x1E02B, 0x1E130, 0x1E137, 0x1E2AE, 0x1E2AF,
    0x1E2EC, 0x1E2F0, 0x1E944, 0x1E94A]⟩⟩,
  ⟨232, ⟨[0x315, 0x316, 0x31A, 0x31B, 0x358, 0x359, 0x1DF6, 0x1DF7, 0x302C, 0x302D]⟩⟩,
  ⟨233, ⟨[0x35C, 0x35D, 0x35F, 0x360, 0x362, 0x363, 0x1DFC, 0x1DFD]⟩⟩,
  ⟨234, ⟨[0x35D, 0x35F, 0x360, 0x362, 0x1DCD, 0x1DCE]⟩⟩, ⟨240, ⟨[0x345, 0x346]⟩⟩]

/-! ## Forms -/

/-- The form that a row has for a character. -/
def FormRow.form? (row : FormRow) (c : Char) : Option (List Char) :=
  if row.first ≤ c.toNat then (splitOn [' '] row.forms.toList)[c.toNat - row.first]? else none

/-- The rows are in order, so the last one that starts at or before a character is its row. -/
def formRow? (c : Char) : Option FormRow :=
  (formRows.takeWhile fun row => row.first ≤ c.toNat).getLast?

/-- A Korean syllable taken apart into two or three letters. -/
def syllableForm (index : Nat) : List Char :=
  let lead := 0x1100 + index / 588
  let vowel := 0x1161 + index % 588 / 28
  let tail := index % 28
  if tail = 0 then [Char.ofNat lead, Char.ofNat vowel]
  else [Char.ofNat lead, Char.ofNat vowel, Char.ofNat (0x11A7 + tail)]

/-- The form of a character. -/
def charForm (c : Char) : List Char :=
  if c.toNat < 0x80 then [c]
  else if 0xAC00 ≤ c.toNat ∧ c.toNat < 0xD7A4 then syllableForm (c.toNat - 0xAC00)
  else (((formRow? c).bind (·.form? c)).getD [c])

/-- The number of a mark's class; what is no mark has zero. -/
def markClass (c : Char) : Nat :=
  if c.toNat < 0x300 then 0
  else ((markClasses.find? fun k => k.marks.contains c).map (·.number)).getD 0

/-- Characters with one more in front of them, which goes behind the marks of lower classes that
follow it. Marks of one class keep their order. -/
def insertMark (c : Char) : List Char → List Char
  | [] => [c]
  | d :: rest =>
    if markClass d ≠ 0 ∧ markClass d < markClass c then d :: insertMark c rest else c :: d :: rest

/-- The compatibility form of a text. -/
def compatibilityForm (cs : List Char) : List Char :=
  (cs.flatMap charForm).foldr insertMark []

/-- Two texts have the same compatibility form. -/
def isCompatible (s t : String) : Bool :=
  s == t || compatibilityForm s.toList == compatibilityForm t.toList

end TableInterfaces.Text
