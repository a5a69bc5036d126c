import Telemetry.Text.Blank
import Telemetry.Text.Lowercase

/-!
# Commands of the preview shell

A line holds a command word, in any mixture of small and capital letters, and
what the command applies to.
-/

namespace Telemetry

namespace Preview

inductive Command where
  | nothing
  | quit
  | help
  /-- Set the format, taken as it stands, or show it if there is none. -/
  | format (text : String)
  | render
  | load (path : String)
  | generate (count : String)
  | seed (value : String)
  /-- Choose the body that orbits are measured against. -/
  | primary (id : String)
  | particles
  | tags
  | unknown (word : String)
deriving Repr, DecidableEq

/-- What a line asks for.  Its line end is not part of it. -/
def Command.ofLine (line : List Char) : Command :=
  let line := (Text.trimEnd (fun character => character = '\n' ∨ character = '\r') line).dropWhile
    Text.isBlank
  let (word, rest) := Text.splitWord line
  let argument := String.ofList (Text.trim rest)
  if line = [] then .nothing
  else
    match Text.lowercase (String.ofList word) with
    | "quit" | "exit" | "q" => .quit
    | "help" | "h" | "?" => .help
    | "fmt" => .format (String.ofList rest)
    | "render" | "r" => .render
    | "load" => .load argument
    | "disk" => .generate argument
    | "seed" => .seed argument
    | "primary" => .primary argument
    | "particles" | "ls" => .particles
    | "tags" => .tags
    | word => .unknown word

end Preview

end Telemetry
