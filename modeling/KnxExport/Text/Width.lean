import KnxExport.Text.Extending
import KnxExport.Text.Width.Ranges

/-!
# The width of text on a terminal

A character takes no column, one or two. What a character takes can depend on what follows it: an
emoji and its modifier, or two letters that are drawn as one sign, take the space of one character.
The width of a text is therefore summed from its end to its beginning, and at each character the
sum carries what the characters after it ask for.
-/

namespace KnxExport.Text.Width

/-- The columns of a character that stands by itself. Controls take one. -/
def ofChar (c : Char) : Nat :=
  if c.toNat ≤ 0xa0 ∨ c.toNat = 0x2d7f then 1
  else if c.toNat = 0x115f ∨ c.toNat = 0x17a4 then 2
  else if c.toNat = 0x17d8 then 3
  else if isExtending c || emptyRanges.contains c then 0
  else if wideRanges.contains c then 2
  else 1

/-- Letters that may join the ones before them. -/
inductive Letter where
  | lamed
  | ya
  /-- The vowel sign i before a joined ya. -/
  | signYa
  | tifinagh
  /-- The consonant joiner before a Tifinagh letter. -/
  | joinerTifinagh
  | lisuTone
  | khmer
  | turkicI
  | kiratE
  | kiratAI
  deriving DecidableEq, Repr

/-- What the characters that follow ask for. -/
inductive Tail where
  | none
  /-- An emoji. -/
  | emoji
  /-- A modifier of skin tone. -/
  | modifier
  /-- One regional indicator. -/
  | regional
  /-- Several regional indicators. -/
  | regionals
  /-- A joiner and an emoji. -/
  | joined
  /-- A keycap sign that is joined to an emoji. -/
  | joinedKeycap
  /-- One regional indicator that is joined to an emoji. -/
  | joinedRegional
  /-- An even number of regional indicators that are joined to an emoji. -/
  | joinedEven
  /-- An odd number, more than one, of regional indicators that are joined to an emoji. -/
  | joinedOdd
  /-- The Arabic letter alef. -/
  | alef
  /-- Another letter, with or without a joiner before it. -/
  | letter (letter : Letter) (joiner : Bool)
  deriving DecidableEq, Repr

/-- What a variation selector asks for. -/
inductive Style where
  | emoji
  | text
  deriving DecidableEq, Repr

/-- What the character before the ones that have been summed has to respect. -/
structure Context where
  tail : Tail := .none
  style? : Option Style := none
  deriving DecidableEq, Repr

/-- A regional indicator. -/
def isRegional (c : Char) : Bool :=
  0x1f1e6 ≤ c.toNat && c.toNat ≤ 0x1f1ff

/-- A modifier of skin tone. -/
def isModifier (c : Char) : Bool :=
  0x1f3fb ≤ c.toNat && c.toNat ≤ 0x1f3ff

/-- A Tifinagh consonant. -/
def isTifinagh (c : Char) : Bool :=
  (0x2d31 ≤ c.toNat && c.toNat ≤ 0x2d65) || c.toNat == 0x2d6f

/-- The Arabic letters that are forms of alef. -/
def alefRanges : CharClass :=
  [(0x622, 0x623), (0x625, 0x625), (0x627, 0x627), (0x671, 0x673), (0x675, 0x675),
    (0x773, 0x774), (0x870, 0x882)]

/-- The Arabic letters that are forms of lam. -/
def lamRanges : CharClass :=
  [(0x644, 0x644), (0x6b5, 0x6b8), (0x76a, 0x76a), (0x8a6, 0x8a6), (0x8c7, 0x8c7)]

/-- The Khmer letters that take a sign of their own below another letter. -/
def khmerRanges : CharClass :=
  [(0x1780, 0x1782), (0x1784, 0x1787), (0x1789, 0x178c), (0x178e, 0x1793), (0x1795, 0x1798),
    (0x179b, 0x179d), (0x17a0, 0x17a0), (0x17a2, 0x17a2), (0x17a7, 0x17a7), (0x17ab, 0x17ac),
    (0x17af, 0x17af)]

/-- The ignorable marks that may stand anywhere in a ligature. -/
def transparentRanges : CharClass :=
  [(0x34f, 0x34f), (0x17b4, 0x17b5), (0x180b, 0x180d), (0x180f, 0x180f), (0x200d, 0x200d),
    (0xfe00, 0xfe0f), (0xe0100, 0xe01ef)]

/-- A mark that may stand between lam and alef. -/
def isArabicMark (c : Char) : Bool :=
  ofChar c == 0 && !interruptingRanges.contains c

/-- What a character that stands by itself asks of the one before it. -/
def tailOf (c : Char) : Tail :=
  let n := c.toNat
  if alefRanges.contains c then .alef
  else if khmerRanges.contains c then .letter .khmer false
  else if n = 0x5dc then .letter .lamed false
  else if n = 0x1a10 then .letter .ya false
  else if isTifinagh c then .letter .tifinagh false
  else if n = 0xa4fc ∨ n = 0xa4fd then .letter .lisuTone false
  else if n = 0x10c03 then .letter .turkicI false
  else if n = 0x16d67 then .letter .kiratE false
  else if n = 0x16d68 then .letter .kiratAI false
  else if isRegional c then .regional
  else if isModifier c then .modifier
  else if emojiRanges.contains c then .emoji
  else .none

/-- A character before text that asks nothing of it. -/
def alone (c : Char) : Int × Context :=
  (ofChar c, { tail := tailOf c })

/-- The tail outlasts a variation selector. -/
def Tail.isKept (style : Style) : Tail → Bool
  | .alef | .letter _ _ => true
  | .joined | .joinedKeycap => style == .emoji
  | _ => false

/-- The columns that a character adds before the given tail, and the tail with it. Outside of the
cases listed a character stands by itself. -/
def join (c : Char) (tail : Tail) : Int × Context :=
  let n := c.toNat
  let ligature (condition : Bool) (columns : Int) (tail : Tail) : Int × Context :=
    if condition then (columns, { tail }) else alone c
  match tail with
  | .alef =>
    if isArabicMark c then (0, { tail := .alef }) else ligature (lamRanges.contains c) 0 .none
  | .letter .lamed joiner => ligature (joiner && n == 0x5d0) 0 .none
  | .letter .khmer _ => ligature (n == 0x17d2) (-1) .none
  | .letter .ya joiner => ligature (joiner && n == 0x1a17) 0 (.letter .signYa false)
  | .letter .signYa _ => ligature (n == 0x1a15) 0 .none
  | .letter .tifinagh joiner =>
    if n = 0x2d7f then (1, { tail := .letter .joinerTifinagh false })
    else ligature (joiner && isTifinagh c) 0 .none
  | .letter .joinerTifinagh _ => ligature (isTifinagh c) (-1) .none
  | .letter .lisuTone _ => ligature (0xa4f8 ≤ n && n ≤ 0xa4fb) 0 .none
  | .letter .turkicI joiner => ligature (joiner && n == 0x10c32) 0 .none
  | .letter .kiratE joiner =>
    if n = 0x16d67 then (0, { tail := .letter .kiratE joiner })
    else if n = 0x16d68 then (1, { tail := .letter .kiratE joiner })
    else ligature (n == 0x16d63 || n == 0x16d69) 0 .none
  | .letter .kiratAI _ => ligature (n == 0x16d63) 0 .none
  | .modifier =>
    if n = 0x200d then (0, { tail := .joined })
    else ligature (modifiedRanges.contains c) 0 .emoji
  | .emoji => ligature (n == 0x200d) 0 .joined
  | .regional => ligature (isRegional c) 1 .regionals
  | .regionals =>
    if n = 0x200d then (0, { tail := .joined }) else ligature (isRegional c) 1 .regionals
  | .joined =>
    if n = 0x20e3 then (0, { tail := .joinedKeycap })
    else if isRegional c then (1, { tail := .joinedRegional })
    else if isModifier c then (0, { tail := .modifier })
    else ligature (emojiRanges.contains c) 0 .emoji
  | .joinedRegional => ligature (isRegional c) (-1) .joinedEven
  | .joinedEven =>
    if n = 0x200d then (0, { tail := .joined }) else ligature (isRegional c) 3 .joinedOdd
  | .joinedOdd =>
    if n = 0x200d then (0, { tail := .joined }) else ligature (isRegional c) (-1) .joinedEven
  | .joinedKeycap | .none => alone c

/-- The columns that a character adds before the given context, and the context with it. -/
def add (c : Char) (context : Context) : Int × Context :=
  let n := c.toNat
  if context.style? = some .emoji ∧ emojiBaseRanges.contains c then
    (if context.tail = .joined ∨ context.tail = .joinedKeycap then 0 else 2, { tail := .emoji })
  else if n ≤ 0xa0 then (1, {})
  else if n = 0xfe0f then
    (0, ⟨if context.tail.isKept .emoji then context.tail else .none, some .emoji⟩)
  else if n = 0xfe0e then
    (0, ⟨if context.tail.isKept .text then context.tail else .none, some .text⟩)
  else if context.style? = some .text ∧ textBaseRanges.contains c then (1, {})
  else
    match context.tail with
    | .letter letter joiner =>
      if n = 0x200d then (0, { tail := .letter letter true })
      else if transparentRanges.contains c then (0, { tail := .letter letter joiner })
      else join c context.tail
    | tail => join c tail

/-- The sum of the columns from the end of a text, and the context at its beginning. -/
def sum (text : List Char) : Int × Context :=
  text.foldr (fun c after =>
    let before := add c after.2
    (before.1 + after.1, before.2)) (0, {})

end Width

/-- The number of columns that a text takes on a terminal. -/
def width (text : List Char) : Nat :=
  (Width.sum text).1.toNat

end KnxExport.Text
