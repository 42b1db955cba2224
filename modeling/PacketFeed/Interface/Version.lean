import PacketFeed.Interface.Basic

/-!
# Versions and aliases

A name without a version stands for the latest version of that function.  The
latest version can be asked for one name, or listed for all names at once in
the order in which the names first appear in the table.
-/

namespace PacketFeed.Interface

/-- The highest version of a name; `none` if no row has the name. -/
def latestVersion? (functions : List Function) (name : String) :
    Option UInt32 :=
  ((functions.filter fun function => function.name = name).map
    Function.version).max?

/-- Raise the version of a listed name, or list a new name last. -/
def noteVersion (name : String) (version : UInt32) :
    List (String × UInt32) → List (String × UInt32)
  | [] => [(name, version)]
  | (listed, latest) :: rest =>
      if listed = name then
        (listed, max latest version) :: rest
      else
        (listed, latest) :: noteVersion name version rest

/-- Each name once, with its highest version, in the order of the table. -/
def aliases (functions : List Function) : List (String × UInt32) :=
  functions.foldl
    (fun listed function =>
      noteVersion function.name function.version listed)
    []

end PacketFeed.Interface
