import CachePartition.Text.Search

/-! The file that logs are written to: a directory, and the first part of the names of the files in
it. -/
namespace CachePartition

structure LogFile where
  directory : String
  /-- The first part of file names; a day follows. -/
  start : String
  deriving DecidableEq, Repr

namespace LogFile

/-- The fixed front of a path, a root or the current directory, and what follows it. -/
def splitFront : List Char → List Char × List Char
  | '/' :: rest => (['/'], rest)
  | ['.'] => (['.'], [])
  | '.' :: '/' :: rest => (['.'], '/' :: rest)
  | path => ([], path)

/-- The parts of a path without those at its end that lead nowhere. -/
def trimParts (parts : List (List Char)) : List (List Char) :=
  (parts.reverse.dropWhile fun p => p = [] || p = ['.']).reverse

/-- A path as a directory and a name in it; none if it ends in a directory. -/
def ofPath? (path : String) : Option LogFile :=
  let (front, body) := splitFront path.toList
  let parts := trimParts (body.splitOnP (· = '/'))
  match parts.getLast? with
  | none => none
  | some ['.', '.'] => none
  | some name =>
    let directory := front ++ ['/'].intercalate (trimParts parts.dropLast)
    some {
      directory := if directory.isEmpty then "." else .ofList directory
      start := .ofList name }

end LogFile

/-- Why nothing can be logged to a file. -/
inductive LogFileError where
  | noName
  /-- No file can be made in the directory. -/
  | refused (directory : String)
  deriving DecidableEq, Repr

def LogFileError.message : LogFileError → String
  | noName => "log file path has no file name"
  | refused directory => "failed to create rolling file appender in " ++ directory

namespace LogFile

/-- Opens the log file of a path, given whether files can be made in a directory. -/
def open? (accepts : String → Bool) (path : String) : Except LogFileError LogFile :=
  match ofPath? path with
  | none => .error .noName
  | some f => if accepts f.directory then .ok f else .error (.refused f.directory)

end LogFile

end CachePartition
