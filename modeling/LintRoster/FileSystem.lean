import LintRoster.FileTree
import LintRoster.Path
import LintRoster.Text.Utf8

/-!
# The file system

A file system is a file tree and a current directory. A path is resolved step by step from the
root or the current directory: a name is looked up in the directory reached so far, a symbolic link
is replaced by its target, and a path that passes through too many links is refused. The operations
answer a `FileFault` where an operating system would.
-/

namespace LintRoster

/-- Why an operation on files failed. -/
inductive FileFault where
  | notFound
  | notRunnable
  | badDescriptor
  | permissionDenied
  | exists
  | notDirectory
  | isDirectory
  | brokenPipe
  | nameTooLong
  | notEmpty
  | tooManyLinks
  | notUtf8
  | nulInPath
  | nulInCommand
  | described (text : String)
deriving DecidableEq, Repr

namespace FileFault

/-- What a fault is, in words. -/
def summary : FileFault → String
  | notFound => "No such file or directory"
  | notRunnable => "Exec format error"
  | badDescriptor => "Bad file descriptor"
  | permissionDenied => "Permission denied"
  | «exists» => "File exists"
  | notDirectory => "Not a directory"
  | isDirectory => "Is a directory"
  | brokenPipe => "Broken pipe"
  | nameTooLong => "File name too long"
  | notEmpty => "Directory not empty"
  | tooManyLinks => "Too many levels of symbolic links"
  | notUtf8 => "stream did not contain valid UTF-8"
  | nulInPath => "file name contained an unexpected NUL byte"
  | nulInCommand => "nul byte found in provided data"
  | described text => text

/-- The number by which the operating system knows a fault. -/
def number? : FileFault → Option Nat
  | notFound => some 2
  | notRunnable => some 8
  | badDescriptor => some 9
  | permissionDenied => some 13
  | «exists» => some 17
  | notDirectory => some 20
  | isDirectory => some 21
  | brokenPipe => some 32
  | nameTooLong => some 36
  | notEmpty => some 39
  | tooManyLinks => some 40
  | notUtf8 | nulInPath | nulInCommand | described _ => none

/-- The text of a fault: what it is, and its number if it has one. -/
def message (fault : FileFault) : String :=
  match fault.number? with
  | some n => fault.summary ++ " (os error " ++ toString n ++ ")"
  | none => fault.summary

end FileFault

/-- A file tree, seen from a current directory. -/
structure FileSystem where
  root : Directory
  cwd : List String

namespace FileSystem

/-- Where a path leads: to a node at a place without links, or to a free name in a directory. -/
inductive Target where
  | node (place : List String) (node : Node)
  | free (parent : List String) (name : String)

/-- How many links a path may pass through. -/
def linkLimit : Nat := 40

/-- The longest name, in bytes. -/
def nameLimit : Nat := 255

/-- The longest text of a path, in bytes. -/
def pathLimit : Nat := 4095

/-- Whether a directory stands at a place. -/
def holdsDir (root : Directory) (place : List String) : Bool :=
  match root.find? place with
  | some (.dir _) => true
  | _ => false

/-- Follows the pieces of a path from the directory at `place`. `enter` continues behind a link,
from a place and with more pieces. A link at the very end is followed only if `followLast` says
so. No name is free in a current directory that was taken away. -/
def walk (root : Directory) (followLast : Bool)
    (enter : List String → List String → Except FileFault Target) :
    List String → List String → Except FileFault Target
  | place, [] =>
    match root.find? place with
    | some node => .ok (.node place node)
    | none => .error .notFound
  | place, piece :: rest =>
    if piece == "" || piece == "." then walk root followLast enter place rest
    else if piece == ".." then walk root followLast enter place.dropLast rest
    else if piece.utf8ByteSize > nameLimit then .error .nameTooLong
    else
      match root.find? (place ++ [piece]) with
      | none =>
        if rest.all (· == "") && holdsDir root place then .ok (.free place piece)
        else .error .notFound
      | some (.dir _) => walk root followLast enter (place ++ [piece]) rest
      | some (.file bytes executable) =>
        if rest.isEmpty then .ok (.node (place ++ [piece]) (.file bytes executable))
        else .error .notDirectory
      | some (.link target) =>
        if rest.isEmpty && !followLast then .ok (.node (place ++ [piece]) (.link target))
        else if target == "" then .error .notFound
        else
          let start := if (Path.mk target).isAbsolute then [] else place
          enter start ((Path.mk target).pieces ++ rest)

/-- Follows the pieces of a path through at most the given number of links. -/
def follow (root : Directory) (followLast : Bool) :
    Nat → List String → List String → Except FileFault Target
  | 0 => walk root followLast fun _ _ => .error .tooManyLinks
  | links + 1 => walk root followLast (follow root followLast links)

/-- The place and pieces at which a path starts to be resolved. -/
def start (fs : FileSystem) (p : Path) : List String :=
  if p.isAbsolute then [] else fs.cwd

/-- Resolves a path. -/
def resolveWith (fs : FileSystem) (followLast : Bool) (p : Path) : Except FileFault Target :=
  if p.text.toList.contains '\x00' then .error .nulInPath
  else if p.text == "" then .error .notFound
  else if p.text.utf8ByteSize > pathLimit then .error .nameTooLong
  else follow fs.root followLast linkLimit (fs.start p) p.pieces

/-- Resolves a path, through a link at its end. -/
def resolve (fs : FileSystem) (p : Path) : Except FileFault Target :=
  fs.resolveWith true p

/-- Resolves a path, up to a link at its end. -/
def resolveLink (fs : FileSystem) (p : Path) : Except FileFault Target :=
  fs.resolveWith false p

/-- The node that a path leads to, through links. -/
def stat (fs : FileSystem) (p : Path) : Except FileFault (List String × Node) :=
  match fs.resolve p with
  | .error e => .error e
  | .ok (.node place node) => .ok (place, node)
  | .ok (.free _ _) => .error .notFound

/-- Whether a path leads to anything. -/
def pathExists (fs : FileSystem) (p : Path) : Bool :=
  match fs.stat p with
  | .ok _ => true
  | .error _ => false

/-- Whether a path leads to a directory. -/
def isDir (fs : FileSystem) (p : Path) : Bool :=
  match fs.stat p with
  | .ok (_, node) => node.isDir
  | .error _ => false

/-- Whether a path leads to a regular file that may be executed. -/
def isExecutable (fs : FileSystem) (p : Path) : Bool :=
  match fs.stat p with
  | .ok (_, .file _ executable) => executable
  | _ => false

/-- The bytes of the file that a path leads to. -/
def readBytes (fs : FileSystem) (p : Path) : Except FileFault (List UInt8) :=
  match fs.stat p with
  | .error e => .error e
  | .ok (_, .file bytes _) => .ok bytes
  | .ok (_, .dir _) => .error .isDirectory
  | .ok (_, .link _) => .error .tooManyLinks

/-- The text of the file that a path leads to. -/
def readText (fs : FileSystem) (p : Path) : Except FileFault String :=
  match fs.readBytes p with
  | .error e => .error e
  | .ok bytes =>
    match Utf8.decode? bytes with
    | none => .error .notUtf8
    | some text => .ok text

/-- Puts a node at a place. -/
def put (fs : FileSystem) (place : List String) (node : Node) : FileSystem :=
  { fs with root := fs.root.alterAt place fun _ => some node }

/-- Takes the node at a place away. -/
def erase (fs : FileSystem) (place : List String) : FileSystem :=
  { fs with root := fs.root.alterAt place fun _ => none }

/-- Writes a file: a new one, or the bytes of an old one, which keeps its permission. -/
def writeBytes (fs : FileSystem) (p : Path) (bytes : List UInt8) (executable : Bool) :
    Except FileFault FileSystem :=
  match fs.resolve p with
  | .error e => .error e
  | .ok (.node place (.file _ old)) => .ok (fs.put place (.file bytes old))
  | .ok (.node _ (.dir _)) => .error .isDirectory
  | .ok (.node _ (.link _)) => .error .tooManyLinks
  | .ok (.free parent name) =>
    if p.text.toList.getLast? == some '/' then .error .isDirectory
    else .ok (fs.put (parent ++ [name]) (.file bytes executable))

/-- Makes one directory at a free name. -/
def makeDir (fs : FileSystem) (p : Path) : Except FileFault FileSystem :=
  match fs.resolveLink p with
  | .error e => .error e
  | .ok (.node _ _) => .error .exists
  | .ok (.free parent name) => .ok (fs.put (parent ++ [name]) (.dir .empty))

/-- Makes the directories at the given paths, each the parent of the one before it, as far as they
are missing. Work starts at the first path whose parent exists, and what was made before a fault
stays. -/
def makeDirChain (fs : FileSystem) : List Path → Except FileFault Unit × FileSystem
  | [] => (.ok (), fs)
  | p :: parents =>
    match fs.makeDir p with
    | .ok fs' => (.ok (), fs')
    | .error .notFound =>
      match fs.makeDirChain parents with
      | (.error e, fs') => (.error e, fs')
      | (.ok (), fs') =>
        match fs'.makeDir p with
        | .ok fs'' => (.ok (), fs'')
        | .error e => (if fs'.isDir p then .ok () else .error e, fs')
    | .error e => (if fs.isDir p then .ok () else .error e, fs)

/-- A path and the paths above it, nearest first. -/
def ancestry (p : Path) : List Path :=
  p :: (List.range p.components.length).filterMap fun i =>
    let kept := p.components.dropLast.take (p.components.length - 1 - i)
    if kept.isEmpty || kept == [.root] then none else some (Path.ofComponents kept)

/-- Makes a directory together with the missing directories above it. -/
def makeDirs (fs : FileSystem) (p : Path) : Except FileFault Unit × FileSystem :=
  if p.text == "" then (.ok (), fs) else fs.makeDirChain (ancestry p)

/-- The file system without what a path leads to, be it a file, a link or a whole tree. -/
def removeTree (fs : FileSystem) (p : Path) : FileSystem :=
  match fs.resolveLink p with
  | .ok (.node place _) => fs.erase place
  | _ => fs

/-- The place of the directory that a path leads to. -/
def dirPlace (fs : FileSystem) (p : Path) : Except FileFault (List String) :=
  match fs.stat p with
  | .error e => .error e
  | .ok (place, .dir _) => .ok place
  | .ok _ => .error .notDirectory

/-- The file system seen from another directory. -/
def changeDir (fs : FileSystem) (p : Path) : Except FileFault FileSystem :=
  match fs.dirPlace p with
  | .error e => .error e
  | .ok place => .ok { fs with cwd := place }

/-- The absolute path of a place. -/
def absolute (place : List String) : Path :=
  ⟨"/" ++ String.intercalate "/" place⟩

end FileSystem

end LintRoster
