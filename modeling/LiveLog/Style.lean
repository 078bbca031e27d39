/-! Colours and text attributes of a terminal. -/
namespace LiveLog

/-- The colours of a terminal. `reset` is the one the terminal shows by itself; besides the named ones
there are mixed ones and those of a palette. -/
inductive Color where
  | reset
  | black
  | red
  | green
  | yellow
  | blue
  | magenta
  | cyan
  | gray
  | darkGray
  | lightRed
  | lightGreen
  | lightYellow
  | lightBlue
  | lightMagenta
  | lightCyan
  | white
  | rgb (red green blue : UInt8)
  | indexed (index : UInt8)
  deriving DecidableEq, Repr, Inhabited

/-- A set of text attributes. -/
structure Modifiers where
  bold : Bool := false
  dim : Bool := false
  italic : Bool := false
  underlined : Bool := false
  slowBlink : Bool := false
  rapidBlink : Bool := false
  reversed : Bool := false
  hidden : Bool := false
  crossedOut : Bool := false
  deriving DecidableEq, Repr, Inhabited

/-- The attributes of either set. -/
def Modifiers.union (a b : Modifiers) : Modifiers where
  bold := a.bold || b.bold
  dim := a.dim || b.dim
  italic := a.italic || b.italic
  underlined := a.underlined || b.underlined
  slowBlink := a.slowBlink || b.slowBlink
  rapidBlink := a.rapidBlink || b.rapidBlink
  reversed := a.reversed || b.reversed
  hidden := a.hidden || b.hidden
  crossedOut := a.crossedOut || b.crossedOut

/-- The attributes of the first set that are not in the second. -/
def Modifiers.without (a b : Modifiers) : Modifiers where
  bold := a.bold && !b.bold
  dim := a.dim && !b.dim
  italic := a.italic && !b.italic
  underlined := a.underlined && !b.underlined
  slowBlink := a.slowBlink && !b.slowBlink
  rapidBlink := a.rapidBlink && !b.rapidBlink
  reversed := a.reversed && !b.reversed
  hidden := a.hidden && !b.hidden
  crossedOut := a.crossedOut && !b.crossedOut

/-- What a piece of text changes about its surroundings: a colour that is left out stays, and so does an
attribute that is neither added nor removed. -/
structure Style where
  fg : Option Color := none
  bg : Option Color := none
  /-- The colour of the line under the text. -/
  underline : Option Color := none
  modifiers : Modifiers := {}
  removed : Modifiers := {}
  deriving DecidableEq, Repr, Inhabited

namespace Style

/-- One style laid over another: where one adds an attribute that the other removes, the upper one
decides. -/
def patch (base added : Style) : Style where
  fg := added.fg <|> base.fg
  bg := added.bg <|> base.bg
  underline := added.underline <|> base.underline
  modifiers := (base.modifiers.without added.removed).union added.modifiers
  removed := (base.removed.without added.modifiers).union added.removed

/-- The style with a foreground colour only. -/
def ofFg (color : Color) : Style := { fg := some color }

/-- The style with more attributes. -/
def adding (style : Style) (added : Modifiers) : Style :=
  { style with
    modifiers := style.modifiers.union added
    removed := style.removed.without added }

/-- The style in bold. -/
def bolded (style : Style) : Style :=
  style.adding { bold := true }

/-- The style with foreground and background exchanged on screen. -/
def reversed (style : Style) : Style :=
  style.adding { reversed := true }

end Style

end LiveLog
