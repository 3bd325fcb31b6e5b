import ShaderBinding.CommandLine.Setting

/-! The texts that tell how the command line is used. The full one spreads each option over several
lines. -/

namespace ShaderBinding

namespace CommandLine

def versionText : String := "sbtgen-cli 0.1.0\n"

def indentation : String := "          "

def optionLine (short : Option Char) (long value : String) : String :=
  let letter := match short with
    | some char => "  -" ++ String.singleton char ++ ", "
    | none => "      "
  letter ++ "--" ++ long ++ value

namespace Setting

def heading (setting : Setting) : String :=
  optionLine setting.short? setting.long (" " ++ setting.placeholder)

def standardText (setting : Setting) : String := "[default: " ++ setting.standard ++ "]"

def choicesText (setting : Setting) : String :=
  if setting.choices.isEmpty then ""
  else " [possible values: " ++ ", ".intercalate (setting.choices.map (·.1)) ++ "]"

def briefHelp (setting : Setting) : List String :=
  [setting.heading,
    indentation ++ setting.about ++ " " ++ setting.standardText ++ setting.choicesText]

/-- A value to choose from, padded so that the meanings line up. -/
def choiceLine (width : Nat) (choice : String × String) : String :=
  let padding := String.ofList (List.replicate (width - choice.1.length) ' ')
  indentation ++ "- " ++ choice.1 ++ ":" ++ padding ++ " " ++ choice.2

def choiceLines (setting : Setting) : List String :=
  if setting.choices.isEmpty then []
  else
    let width := (setting.choices.map (·.1.length)).foldl max 0
    ["", indentation ++ "Possible values:"] ++ setting.choices.map (choiceLine width)

def fullHelp (setting : Setting) : List String :=
  [setting.heading, indentation ++ setting.about]
    ++ setting.choiceLines
    ++ [indentation, indentation ++ setting.standardText, ""]

end Setting

def helpHead : List String :=
  ["Generates shader binding table dispatch functions and appends them to a shader source file",
    "", "Usage: sbtgen [OPTIONS]", "", "Options:"]

def helpHeading : String := optionLine (some Flag.help.short) Flag.help.long ""

def versionLines : List String :=
  [optionLine (some Flag.version.short) Flag.version.long "", indentation ++ "Print version"]

def briefHelpLines : List String :=
  helpHead ++ Setting.all.flatMap Setting.briefHelp
    ++ [helpHeading, indentation ++ "Print help (see more with '--help')"] ++ versionLines

def fullHelpLines : List String :=
  helpHead ++ Setting.all.flatMap Setting.fullHelp
    ++ [helpHeading, indentation ++ "Print help (see a summary with '-h')", ""] ++ versionLines

def linesText (lines : List String) : String := String.join (lines.map (· ++ "\n"))

end CommandLine

end ShaderBinding
