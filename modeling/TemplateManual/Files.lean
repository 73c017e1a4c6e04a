import TemplateManual.Failure

set_option autoImplicit false

namespace TemplateManual

namespace Path

def splitSlashes : List Char → List (List Char)
  | [] => [[]]
  | '/' :: rest => [] :: splitSlashes rest
  | c :: rest =>
    match splitSlashes rest with
    | [] => [[c]]
    | name :: more => (c :: name) :: more

def names (path : String) : List String := (splitSlashes path.toList).map String.ofList

def isAbsolute (path : String) : Bool := path.toList.head? == some '/'

-- Drops slashes and lone dots from the end of a path, which is given backwards.
def dropEnd : List Char → List Char
  | ['/'] => ['/']
  | '/' :: rest => dropEnd rest
  | '.' :: '/' :: rest => dropEnd ('/' :: rest)
  | chars => chars

-- The folder that a path lies in; an empty text is the working folder itself.
def parent? (path : String) : Option String :=
  match dropEnd path.toList.reverse with
  | [] => none
  | ['/'] => none
  | chars => some (String.ofList (dropEnd (chars.dropWhile (· != '/'))).reverse)

end Path

inductive Node where
  | folder
  | text (content : String)
  | binary
deriving DecidableEq, Repr

abbrev Location := List String

structure FileTree where
  nodes : List (Location × Node)
  working : Location

namespace FileTree

def get? (tree : FileTree) : Location → Option Node
  | [] => some .folder
  | location => (tree.nodes.find? fun node => node.1 == location).map Prod.snd

def isFolder (tree : FileTree) (location : Location) : Bool := tree.get? location == some .folder

def put (tree : FileTree) (location : Location) (node : Node) : FileTree :=
  { tree with nodes := (location, node) :: tree.nodes.filter fun held => held.1 != location }

-- Follows names from a folder. The last need not be there.
def follow (tree : FileTree) (here : Location) : List String → Option Location
  | [] => some here
  | name :: rest =>
    if !tree.isFolder here then none
    else if name = "" || name = "." then tree.follow here rest
    else if name = ".." then tree.follow here.dropLast rest
    else tree.follow (here ++ [name]) rest

def locate (tree : FileTree) (path : String) : Option Location :=
  if path = "" then none
  else if Path.isAbsolute path then tree.follow [] (Path.names path)
  else tree.follow tree.working (Path.names path)

def read (tree : FileTree) (path : String) : Except ReadFault String :=
  match (tree.locate path).bind tree.get? with
  | none => .error .notFound
  | some .folder => .error .isFolder
  | some .binary => .error .notText
  | some (.text content) => .ok content

def write (tree : FileTree) (path content : String) : FileTree × Bool :=
  match tree.locate path with
  | none => (tree, false)
  | some location =>
    if tree.isFolder location then (tree, false) else (tree.put location (.text content), true)

-- Makes the folders that are missing on the way, up to the first name that a file has.
def makeFolders (tree : FileTree) (here : Location) : List String → FileTree × Bool
  | [] => (tree, true)
  | name :: rest =>
    if name = "" || name = "." then tree.makeFolders here rest
    else if name = ".." then tree.makeFolders here.dropLast rest
    else
      let next := here ++ [name]
      match tree.get? next with
      | none => (tree.put next .folder).makeFolders next rest
      | some .folder => tree.makeFolders next rest
      | some _ => (tree, false)

def createFolders (tree : FileTree) (path : String) : FileTree × Bool :=
  if Path.isAbsolute path then tree.makeFolders [] (Path.names path)
  else tree.makeFolders tree.working (Path.names path)

end FileTree

structure Disk (m : Type → Type) where
  read : String → m (Except ReadFault String)
  createFolders : String → m Bool
  write : String → String → m Bool

def FileTree.disk : Disk (StateM FileTree) where
  read path tree := (tree.read path, tree)
  createFolders path tree := (tree.createFolders path).swap
  write path content tree := (tree.write path content).swap

end TemplateManual
