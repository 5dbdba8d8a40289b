import Bilingua.Host.Path

/-!
# Hosts

What a command needs of the machine it runs on: to read files and to start interpreters. A host is
given by what these requests answer, so a command is a function of its host and its arguments.
-/

namespace Bilingua

inductive ReadError where
  | notFound
  | notDirectory
  | isDirectory
  | nameTooLong
  | notUtf8
deriving DecidableEq, Repr

def ReadError.text : ReadError → Text
  | .notFound => "No such file or directory (os error 2)".toList
  | .notDirectory => "Not a directory (os error 20)".toList
  | .isDirectory => "Is a directory (os error 21)".toList
  | .nameTooLong => "File name too long (os error 36)".toList
  | .notUtf8 => "stream did not contain valid UTF-8".toList

inductive LaunchError where
  | notFound
  | notDirectory
  | nameTooLong
  | notExecutable
  | nulInName
deriving DecidableEq, Repr

def LaunchError.text : LaunchError → Text
  | .notFound => ReadError.notFound.text
  | .notDirectory => ReadError.notDirectory.text
  | .nameTooLong => ReadError.nameTooLong.text
  | .notExecutable => "Permission denied (os error 13)".toList
  | .nulInName => "nul byte found in provided data".toList

structure Completion where
  output : Text
  errors : Text
  /-- The exit status, or `none` if a signal ended the program. -/
  status : Option Nat
deriving DecidableEq, Repr

structure Host where
  read : Path → Except ReadError Text
  isFile : Path → Bool
  /-- Run a program on the file at a path. -/
  launch : (program : Text) → (path : Path) → Except LaunchError Completion

end Bilingua
