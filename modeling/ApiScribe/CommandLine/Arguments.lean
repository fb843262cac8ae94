import ApiScribe.Text.Number
import ApiScribe.Text.Quoted
import ApiScribe.Text.Split

/-!
# Arguments

A parser of arguments knows some options and one positional argument, which is a single argument
or takes everything that follows it.  An option is recognised by its name, by an equals sign after
its name, or by the beginning of its name if no other long name begins so.  After `--` nothing is
an option.  Arguments that belong to nothing are kept, so that a caller can refuse them.
-/

namespace ApiScribe.CommandLine

/-- An option that takes a value. -/
inductive Setting where
  | headingTag
  | config
  | templates
  | output
  deriving DecidableEq, Repr

/-- The name of an option that takes a value. -/
def Setting.name : Setting → String
  | .headingTag => "--heading-tag"
  | .config => "--config"
  | .templates => "--templates"
  | .output => "--output"

/-- What an option asks for. -/
inductive Switch where
  | help
  | setting (s : Setting)
  deriving DecidableEq, Repr

/-- The option as messages call it. -/
def Switch.title : Switch → String
  | .help => "-h/--help"
  | .setting s => s.name

/-- What stands in the same argument behind the name of an option. -/
inductive Attachment where
  | nothing
  /-- A text behind an equals sign. -/
  | value (text : String)
  /-- The rest of an argument that starts with a short name. -/
  | cluster (rest : List Char)
  deriving DecidableEq, Repr

/-- An argument as a parser sees it. -/
inductive Word where
  | plain (text : String)
  /-- The mark after which nothing is an option. -/
  | mark
  | switch (text : String) (s : Switch) (attached : Attachment)
  | unknown (text : String)
  deriving DecidableEq, Repr

/-- The argument itself. -/
def Word.text : Word → String
  | .plain text => text
  | .mark => "--"
  | .switch text _ _ => text
  | .unknown text => text

/-- The extent of the positional argument. -/
inductive Extent where
  | single
  | everything
  deriving DecidableEq, Repr

/-- A parser of arguments. -/
structure Grammar where
  /-- How messages call the program. -/
  title : String
  usage : List String
  help : List String
  settings : List Setting
  extent : Extent

/-- What arguments say. -/
structure Parsed where
  /-- The options in order; a later one wins. -/
  settings : List (Setting × String) := []
  positional : Option (List String) := none
  unclaimed : List String := []
  deriving DecidableEq, Repr

/-- Why the arguments are not used: help is asked for, or they are refused. -/
inductive Stop where
  | help (text : String)
  | misuse (text : String)
  deriving DecidableEq, Repr

namespace Parsed

/-- The value of an option. -/
def setting? (p : Parsed) (s : Setting) : Option String := p.settings.reverse.lookup s

/-- Keeps the value of an option. -/
def set (p : Parsed) (s : Setting) (value : String) : Parsed :=
  { p with settings := p.settings ++ [(s, value)] }

/-- Keeps the positional argument. -/
def place (p : Parsed) (arguments : List String) : Parsed := { p with positional := some arguments }

/-- Keeps arguments that belong to nothing. -/
def leave (p : Parsed) (arguments : List String) : Parsed :=
  { p with unclaimed := p.unclaimed ++ arguments }

end Parsed

namespace Grammar

/-- The options by name, in the order in which ambiguous ones are listed. -/
def switches (g : Grammar) : List (String × Switch) :=
  [("-h", .help), ("--help", .help)] ++ g.settings.map fun s => (s.name, .setting s)

/-- Refuses the arguments with a message. -/
def misuse (g : Grammar) (message : String) : Stop :=
  .misuse (String.join (g.usage.map (· ++ "\n")) ++ g.title ++ ": error: " ++ message ++ "\n")

/-- Refuses what is given to an option. -/
def misuseOf (g : Grammar) (title message : String) : Stop :=
  g.misuse ("argument " ++ title ++ ": " ++ message)

/-- Answers with the help text. -/
def helpStop (g : Grammar) : Stop :=
  .help (String.join ((g.usage ++ g.help).map (· ++ "\n")))

/-! ### Recognising words -/

/-- The text is a negative number: digits with at most one point, not at the end.  A line end
after it does not count. -/
def isNegativeNumber (cs : List Char) : Bool :=
  let isDigit := fun c => (Text.decimalDigit? c).isSome
  match if cs.getLast? = some '\n' then cs.dropLast else cs with
  | '-' :: digits =>
    match Text.cut? ['.'] digits with
    | none => !digits.isEmpty && digits.all isDigit
    | some (whole, fraction) => whole.all isDigit && !fraction.isEmpty && fraction.all isDigit
  | _ => false

/-- The options that an argument may mean, and what is attached to them. -/
def candidates (g : Grammar) (cs : List Char) : List (String × Switch × Attachment) :=
  match cs with
  | '-' :: '-' :: _ =>
    let (lead, attached) := match Text.cut? ['='] cs with
      | some (lead, value) => (lead, Attachment.value (String.ofList value))
      | none => (cs, Attachment.nothing)
    (g.switches.filter fun (name, _) => Text.startsWith lead name.toList).map
      fun (name, s) => (name, s, attached)
  | _ =>
    (g.switches.filter fun (name, _) => name.toList = cs.take 2).map
      fun (name, s) => (name, s, .cluster (cs.drop 2))

/-- What an equals sign after a name attaches.  After a short name a text is read like one that
follows the name directly. -/
def attached (name value : List Char) : Attachment :=
  if name.length = 2 ∧ value ≠ [] then .cluster value else .value (String.ofList value)

/-- An argument that starts with a dash, is longer than it and is no name of an option. -/
def longWord (g : Grammar) (text : String) : Except Stop Word :=
  let cs := text.toList
  let exact := match Text.cut? ['='] cs with
    | some (name, value) =>
      (g.switches.lookup (String.ofList name)).map fun s =>
        Word.switch text s (attached name value)
    | none => none
  match exact with
  | some word => .ok word
  | none =>
    match g.candidates cs with
    -- none of the options looks like a number, so a negative number is none of them
    | [] => .ok (if isNegativeNumber cs || cs.contains ' ' then .plain text else .unknown text)
    | [(_, s, attached)] => .ok (.switch text s attached)
    | several =>
      .error (g.misuse ("ambiguous option: " ++ text ++ " could match " ++
        ", ".intercalate (several.map Prod.fst)))

/-- An argument before the mark. -/
def word (g : Grammar) (text : String) : Except Stop Word :=
  match text.toList with
  | '-' :: more =>
    match g.switches.lookup text with
    | some s => .ok (.switch text s .nothing)
    | none => if more.isEmpty then .ok (.plain text) else g.longWord text
  | _ => .ok (.plain text)

/-- The arguments as words. -/
def words (g : Grammar) : List String → Except Stop (List Word)
  | [] => .ok []
  | text :: more =>
    if text = "--" then .ok (.mark :: more.map .plain)
    else do return (← g.word text) :: (← g.words more)

/-! ### Consuming words -/

/-- Refuses a text that the option for help does not take. -/
def helpTakes (g : Grammar) (text : List Char) : Stop :=
  g.misuseOf Switch.help.title ("ignored explicit argument " ++ String.ofList (Text.quoted text))

/-- The stop of the short option for help with a tail.  Short options may share a dash, and each
takes nothing from what follows it. -/
def clusterStop (g : Grammar) : List Char → Stop
  | [] => g.helpStop
  | 'h' :: more => g.clusterStop more
  | text => g.helpTakes text

/-- The stop of an option for help. -/
def helpWith (g : Grammar) : Attachment → Stop
  | .nothing => g.helpStop
  | .value text => g.helpTakes text.toList
  | .cluster rest => g.clusterStop rest

/-- What words say, after what is known already. -/
def consume (g : Grammar) : Parsed → List Word → Except Stop Parsed
  | p, [] => .ok p
  | p, .unknown text :: more => g.consume (p.leave [text]) more
  -- help is given as soon as it is met, whatever is wrong with the words after it
  | _, .switch _ .help attached :: _ => .error (g.helpWith attached)
  | p, .switch _ (.setting s) (.value text) :: more => g.consume (p.set s text) more
  | p, .switch _ (.setting s) _ :: .plain text :: more => g.consume (p.set s text) more
  | _, .switch _ (.setting s) _ :: _ => .error (g.misuseOf s.name "expected one argument")
  | p, .mark :: .plain text :: more =>
    match g.extent, p.positional with
    | _, some _ => g.consume (p.leave ["--", text]) more
    | .single, none => g.consume (p.place [text]) more
    | .everything, none => .ok (p.place ("--" :: text :: more.map Word.text))
  | p, [.mark] => .ok (p.leave ["--"])
  | p, .mark :: word :: more => .ok (p.leave ("--" :: (word :: more).map Word.text))
  | p, .plain text :: .mark :: more =>
    match g.extent, p.positional with
    | _, some _ => .ok (p.leave (text :: "--" :: more.map Word.text))
    | .single, none => g.consume (p.place [text]) more
    | .everything, none => .ok (p.place (text :: "--" :: more.map Word.text))
  | p, .plain text :: more =>
    match g.extent, p.positional with
    | _, some _ => g.consume (p.leave [text]) more
    | .single, none => g.consume (p.place [text]) more
    | .everything, none => .ok (p.place (text :: more.map Word.text))

/-- What arguments say. -/
def parse (g : Grammar) (arguments : List String) : Except Stop Parsed := do
  g.consume {} (← g.words arguments)

end Grammar
end ApiScribe.CommandLine
