import EmitBridge.Url.Basic

/-! The directory that an address names, and the directory that holds it. -/

namespace EmitBridge.Url

def withPath (u : Url) (path : List Char) : Url :=
  { u with
    path := String.ofList (if path.isEmpty || path.head? == some '/' then path else '/' :: path)
    query := ""
    fragment := ""
    known := none }

def directory (u : Url) : Url :=
  let path := u.rawPath.toList
  if path.getLast? == some '/' then { u with query := "", fragment := "", known := none }
  else u.withPath (path ++ ['/'])

def decodedSegments (path : List Char) : List (List Char) :=
  (Cut.all '/' path).map Percent.decode

/-- The path up to the last slash, before dot segments are resolved. -/
def parentPath (path : List Char) : List Char :=
  if path.isEmpty then ['/', '.', '/']
  else if path.getLast? == some '/' then path ++ ['.', '/']
  else Cut.join '/' ((decodedSegments path).dropLast ++ [['.', '/']])

/-- The address of the directory that holds the resource at `u`. Below a scheme without relative
addresses it is `./` itself. -/
def parentDirectory (u : Url) : Url :=
  if relativeSchemes.contains u.scheme then
    { u with
      path := String.ofList (normalPath (parentPath u.path.toList))
      query := ""
      fragment := ""
      known := none }
  else ⟨"", "", "./", "", "", none⟩

end EmitBridge.Url
