import Codebook.Command.Basic
import Codebook.Tool

/-!
# The commands that serve

The tool can be served to other programs, at a port or over standard input and output. The server
itself is an optional part: it may be missing, and it may fail.
-/

namespace Codebook.Command.Serve

/-- Where the tool is served. -/
inductive Channel
  | port (number : Int)
  | standard
  deriving DecidableEq, Repr

/-- The port unless told otherwise. -/
def usualPort : Int := 8080

/-- The server: missing, or there and perhaps failing with a message. -/
inductive Server
  | missing
  | present (failure : Option String)
  deriving DecidableEq, Repr

/-- A start of the server: where, and with which tools. -/
structure Start where
  channel : Channel
  tools : List String
  deriving DecidableEq, Repr

/-- What serving leaves behind. -/
structure Result where
  code : Nat
  console : List Shown
  started : List Start
  deriving DecidableEq, Repr

/-- What is shown before the server starts. -/
def announcement : Channel → List Shown
  | .port n => [.styled "bold blue" ("Starting MCP server on port " ++ toString n ++ "...")]
  | .standard => [.styled "bold blue" "Starting STDIO MCP server...",
      .styled "bold green" "Server ready to receive commands on stdin"]

/-- Serves the tool. -/
def run (channel : Channel) (server : Server) : Result :=
  match server with
  | .missing =>
    ⟨1, [errorLine "MCP server dependencies not installed",
      .plain "Try installing with: pip install codebase-examiner[mcp]"], []⟩
  | .present failure =>
    let started := [⟨channel, [Tool.name]⟩]
    match failure with
    | none => ⟨0, announcement channel, started⟩
    | some message => ⟨1, announcement channel ++ [errorLine message], started⟩

end Codebook.Command.Serve
