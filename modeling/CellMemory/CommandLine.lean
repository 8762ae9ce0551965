import CellMemory.Decoder
import CellMemory.Report
import CellMemory.Session.Start

/-! The command line reads a graph and, if asked, settings, resolves the graph's queries on one
session and prints the report of its final state. The first failure ends the run. -/

namespace CellMemory.CommandLine

structure Arguments where
  graph : String
  settings : Option String
  deriving DecidableEq

namespace Arguments

def option : String := "--config"

def separate : List String → Option (List String × List String)
  | [] => some ([], [])
  | argument :: arguments =>
    if argument = option then
      match arguments with
      | [] => none
      | value :: arguments =>
        (separate arguments).map fun (files, values) => (files, value :: values)
    else if argument.startsWith (option ++ "=") then
      (separate arguments).map fun (files, values) =>
        (files, (argument.drop (option.length + 1)).toString :: values)
    else if argument.startsWith "-" then none
    else (separate arguments).map fun (files, values) => (argument :: files, values)

def read (arguments : List String) : Option Arguments :=
  match separate arguments with
  | some ([graph], []) => some ⟨graph, none⟩
  | some ([graph], [settings]) => some ⟨graph, some settings⟩
  | _ => none

end Arguments

inductive ReadFailure where
  | missing
  | other (reason : String)
  deriving DecidableEq

def ReadFailure.text : ReadFailure → String
  | missing => "No such file or directory (os error 2)"
  | other reason => reason

structure File where
  path : String
  content : Except ReadFailure String

inductive Failure where
  | unreadable (path : String) (reason : ReadFailure)
  | malformed (path reason : String)
  | fault (cause : Fault)
  /-- A query fails on its way through a pointer. -/
  | through (pointer : VarId) (cause : Fault)
  deriving DecidableEq

def Failure.message : Failure → String
  | unreadable path reason => "reading " ++ path ++ ": " ++ reason.text
  | malformed path reason => "parsing " ++ path ++ ": " ++ reason
  | fault cause => cause.message
  | through pointer cause => "resolving gep through " ++ pointer.text ++ ": " ++ cause.message

inductive Exit where
  | success
  | failure (cause : Failure)
  /-- The label column is too wide for a line of the report, and the run is aborted. -/
  | abort
  deriving DecidableEq

def Exit.code : Exit → UInt32
  | success => 0
  | failure _ => 1
  | abort => 101

/-- What the run tells of its end. An abort is told of by the runtime and not by the run. -/
def Exit.errors : Exit → String
  | success | abort => ""
  | failure cause => "fatal: " ++ cause.message ++ "\n"

structure Outcome where
  output : String
  exit : Exit
  deriving DecidableEq

def readSettings (decoder : Decoder) : Option File → Except Failure Settings
  | none => .ok .standard
  | some file =>
    match file.content with
    | .error reason => .error (.unreadable file.path reason)
    | .ok text =>
      match Settings.ofText decoder text with
      | .error fault => .error (.fault fault)
      | .ok settings => .ok settings

def readSource (decoder : Decoder) (file : File) : Except Failure Graph.Source :=
  match file.content with
  | .error reason => .error (.unreadable file.path reason)
  | .ok text =>
    match decoder.source text with
    | .error reason => .error (.malformed file.path reason)
    | .ok source => .ok source

def queryLine (pointer : VarId) (offset : Int64) (expr : String) : String :=
  "gep " ++ pointer.text ++ " + " ++ Numeral.decimal offset ++ " = " ++ expr ++ "\n"

def resolveQuery (session : Session) (query : Gep.Query) : Except Failure (String × Session) :=
  match session.offset query.gep with
  | (.error fault, _) => .error (.fault fault)
  | (.ok offset, _) =>
    match session.select query.pointer query.gep with
    | ⟨.error fault, _, _⟩ => .error (.through query.pointer fault)
    | ⟨.ok expr, session, _⟩ =>
      .ok (queryLine query.pointer offset (session.display expr), session)

def resolveQueries (session : Session) : List Gep.Query → List String × Except Failure Session
  | [] => ([], .ok session)
  | query :: queries =>
    match resolveQuery session query with
    | .error failure => ([], .error failure)
    | .ok (line, session) =>
      match resolveQueries session queries with
      | (lines, result) => (line :: lines, result)

/-- Output of the report after that of the queries. What cannot be printed still has its header. -/
def finish (lines : List String) (session : Session) : Outcome :=
  match session.report.text? with
  | some text => ⟨String.join lines ++ text, .success⟩
  | none => ⟨String.join lines ++ Report.header, .abort⟩

def answer (session : Session) (queries : List Gep.Query) : Outcome :=
  match resolveQueries session queries with
  | (lines, .error failure) => ⟨String.join lines, .failure failure⟩
  | (lines, .ok session) => finish lines session

def run (decoder : Decoder) (graph : File) (settings : Option File) : Outcome :=
  match readSettings decoder settings with
  | .error failure => ⟨"", .failure failure⟩
  | .ok settings =>
    match readSource decoder graph with
    | .error failure => ⟨"", .failure failure⟩
    | .ok source =>
      match source.load with
      | .error fault => ⟨"", .failure (.fault fault)⟩
      | .ok (graph, queries) =>
        match Session.start graph settings with
        | .error fault => ⟨"", .failure (.fault fault)⟩
        | .ok (session, _) => answer session queries

end CellMemory.CommandLine
