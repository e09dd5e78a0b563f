import Intercept.Bytes
import Intercept.IoFault
import Intercept.Text.Utf8

/-!
# File systems

Where a path leads, and whether what is there can be read or written, is for the system to say:
links, mounts, the working directory and permissions all have a part in it. So a file system is a
parameter. Its laws are all that is relied on: what is read under a path is what the file holds to
which the path leads, and a write changes no other file.
-/

namespace Intercept

/-- What reading each path comes to. -/
abbrev Files := String → Except IoFault Bytes

namespace Files

/-- What was read, if it is text. -/
def textOf : Except IoFault Bytes → Except IoFault String
  | .error f => .error f
  | .ok octets => match Utf8.decode? octets with
    | some text => .ok text
    | none => .error .notText

def readText (files : Files) (path : String) : Except IoFault String := textOf (files path)

/-- The octets that were read are those of the text. -/
theorem eq_ok_of_readText {files : Files} {path text : String}
    (h : files.readText path = .ok text) : files path = .ok (Utf8.encode text) := by
  unfold readText textOf at h
  split at h
  · cases h
  · rename_i octets read
    split at h
    · rename_i decoded
      cases h
      rw [read, Utf8.eq_encode_of_decode? decoded]
    · cases h

end Files

/-- The files of a system and the ways to them. -/
structure FileSystem where
  State : Type
  /-- A file, whether or not it exists, by whatever path it is found. -/
  File : Type
  /-- What a file holds, if it exists. -/
  contents? : State → File → Option Bytes
  /-- The file to which a path leads. -/
  locate : State → String → Except IoFault File
  read : State → Files
  /-- Replaces what the file holds to which a path leads, or makes the file. A write that fails may
  still have changed something. -/
  write : State → String → Bytes → Except IoFault Unit × State

namespace FileSystem

/-- What is relied on of a file system. -/
structure Lawful (fs : FileSystem) : Prop where
  read_ok {s : fs.State} {path : String} {octets : Bytes} : fs.read s path = .ok octets →
    ∃ f, fs.locate s path = .ok f ∧ fs.contents? s f = some octets
  write_ok {s : fs.State} {path : String} {octets : Bytes} : (fs.write s path octets).1 = .ok () →
    ∃ f, fs.locate s path = .ok f ∧ fs.contents? (fs.write s path octets).2 f = some octets
  /-- Whether it succeeds or not, a write leaves every other file as it is. -/
  write_other {s : fs.State} {path : String} {octets : Bytes} {f : fs.File} :
    fs.locate s path ≠ .ok f → fs.contents? (fs.write s path octets).2 f = fs.contents? s f

end FileSystem

end Intercept
