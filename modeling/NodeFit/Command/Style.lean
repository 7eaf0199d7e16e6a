import NodeFit.Command.Host
import NodeFit.Outcome

/-!
# NodeFit.Command.Style

Marks and colours of what commands print.

Messages start with a mark that tells their kind.  Marks, verdicts and truth values are
coloured where the output is a terminal, and everywhere if the environment forces it.

A text is coloured by codes around it (`paint`); without colours it stands for itself, so that
nothing else depends on the style.
-/

namespace NodeFit

/-- Whether texts are coloured. -/
structure Style where
  coloured : Bool
deriving DecidableEq, Repr

namespace Style

/-- Whether a variable of the environment has a value other than `0`, if it is set. -/
def isOn? (environment : Environment) (name : String) : Option Bool :=
  (environment.lookup name).map fun value => value != "0"

/-- The style for an environment and an output. -/
def choose (environment : Environment) (terminal : Bool) : Style :=
  ⟨isOn? environment "CLICOLOR_FORCE" == some true
    || ((isOn? environment "NO_COLOR").isNone && terminal
      && (isOn? environment "CLICOLOR").getD true)⟩

/-- A text in the form that a list of codes asks for. -/
def paint (style : Style) (codes s : String) : String :=
  if style.coloured then "\x1b[" ++ codes ++ "m" ++ s ++ "\x1b[0m" else s

/-! ## Marks -/

/-- The kinds of message. -/
inductive Mark where
  | success
  | error
  | warning
  | information
deriving DecidableEq, Repr

def mark (style : Style) : Mark → String
  | .success => style.paint "1;32" "✓"
  | .error => style.paint "1;31" "✗"
  | .warning => style.paint "1;33" "⚠"
  | .information => style.paint "1;34" "ℹ"

/-- A message behind its mark. -/
def message (style : Style) (m : Mark) (s : String) : String := style.mark m ++ " " ++ s

/-! ## Values -/

def verdict (style : Style) : Option Verdict → String
  | some .pass => style.paint "1;32" "PASS"
  | some .warn => style.paint "1;33" "WARN"
  | some .fail => style.paint "1;31" "FAIL"
  | none => style.paint "2" "NONE"

/-- A truth value. -/
def truth (style : Style) : Bool → String
  | true => style.paint "32" "true"
  | false => style.paint "31" "false"

end Style
end NodeFit
