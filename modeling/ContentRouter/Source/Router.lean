import ContentRouter.Text.Pieces

/-!
# Sources of routers

The parts of a router's source and their text. A router has a constant for every matcher id and an
entry point for every operation that it serves. An entry point switches on the matcher id of the
request; a case tries its routes in order, calls the delegate of the first one whose guard holds,
and leaves the switch if none does. The parts are the same for any form of guard, and become text
once the guards are texts.
-/

namespace ContentRouter

namespace Source

/-- A matcher id as a router declares it. -/
structure MatcherEntry where
  /-- The name of the constant. -/
  constant : String
  id : Nat
  /-- The literal of the path to match. -/
  path : String
  comment : String
  deriving DecidableEq, Repr

/-- The call of a delegate, under a guard. -/
structure GuardedCall (γ : Type) where
  guard : γ
  call : String
  /-- The template of the route, for the reader. -/
  comment : String
  deriving DecidableEq, Repr

/-- What an entry point does for one matcher id. -/
structure SwitchCase (γ : Type) where
  constant : String
  /-- Whether the case has to leave the switch behind its last route. -/
  needsBreak : Bool
  routes : List (GuardedCall γ)
  deriving DecidableEq, Repr

/-- The entry point of one operation. -/
structure EntryPoint (γ : Type) where
  signature : String
  cases : List (SwitchCase γ)
  deriving DecidableEq, Repr

/-- The source of a router in parts. -/
structure RouterSource (γ : Type) where
  package : String
  routerClass : String
  providerClass : String
  /-- The literal of the authority. -/
  authority : String
  uriType : String
  matchers : List MatcherEntry
  entryPoints : List (EntryPoint γ)
  deriving DecidableEq, Repr

/-- The same call under another form of its guard. -/
def GuardedCall.map {γ δ : Type} (f : γ → δ) (route : GuardedCall γ) : GuardedCall δ :=
  { guard := f route.guard, call := route.call, comment := route.comment }

/-- The same case under another form of its guards. -/
def SwitchCase.map {γ δ : Type} (f : γ → δ) (arm : SwitchCase γ) : SwitchCase δ :=
  { constant := arm.constant, needsBreak := arm.needsBreak, routes := arm.routes.map (·.map f) }

/-- The same entry point under another form of its guards. -/
def EntryPoint.map {γ δ : Type} (f : γ → δ) (entry : EntryPoint γ) : EntryPoint δ :=
  { signature := entry.signature, cases := entry.cases.map (·.map f) }

/-- The same source under another form of its guards. -/
def RouterSource.map {γ δ : Type} (f : γ → δ) (source : RouterSource γ) : RouterSource δ :=
  { source with entryPoints := source.entryPoints.map (·.map f) }

/-- The lines of a guarded call. A call whose guard is an empty text is made in any case. -/
def GuardedCall.lines (route : GuardedCall String) : List String :=
  let action := "return delegate." ++ route.call ++ ";"
  ("                // " ++ route.comment) ::
    if route.guard.isEmpty then ["                " ++ action]
    else
      ["                if (" ++ route.guard ++ ") \x7b", "                    " ++ action,
        "                \x7d"]

/-- The lines of a case. -/
def SwitchCase.lines (arm : SwitchCase String) : List String :=
  ("            case " ++ arm.constant ++ ":") :: arm.routes.flatMap GuardedCall.lines ++
    if arm.needsBreak then ["                break;"] else []

/-- The lines of an entry point. -/
def EntryPoint.lines (entry : EntryPoint String) : List String :=
  ["", "    public " ++ entry.signature ++ " \x7b", "        switch (matcher.match(uri)) \x7b"] ++
    entry.cases.flatMap SwitchCase.lines ++
    ["            default:", "                break;", "        \x7d",
      "        throw new IllegalArgumentException(\"Unknown URI: \" + uri);", "    \x7d"]

/-- The lines that declare a matcher id. -/
def MatcherEntry.declarationLines (entry : MatcherEntry) : List String :=
  ["    // " ++ entry.comment,
    "    public static final int " ++ entry.constant ++ " = " ++ toString entry.id ++ ";"]

/-- The line that registers the path of a matcher id. -/
def MatcherEntry.registrationLine (entry : MatcherEntry) : String :=
  "        matcher.addURI(AUTHORITY, " ++ entry.path ++ ", " ++ entry.constant ++ ");"

namespace RouterSource

/-- The lines before the first declaration. -/
def headLines (source : RouterSource String) : List String :=
  "// Generated by providerkit-gen. Do not edit." ::
    if source.package.isEmpty then [] else ["package " ++ source.package ++ ";"]

/-- The lines of a router's source. -/
def lines (source : RouterSource String) : List String :=
  source.headLines ++
    ["", "public final class " ++ source.routerClass ++ " \x7b",
      "    public static final String AUTHORITY = " ++ source.authority ++ ";", ""] ++
    source.matchers.flatMap MatcherEntry.declarationLines ++
    ["", "    private final " ++ source.providerClass ++ " delegate;",
      "    private final android.content.UriMatcher matcher =",
      "            new android.content.UriMatcher(android.content.UriMatcher.NO_MATCH);", "",
      "    public " ++ source.routerClass ++ "(" ++ source.providerClass ++ " delegate) \x7b",
      "        this.delegate = delegate;"] ++
    source.matchers.map MatcherEntry.registrationLine ++
    ["    \x7d", "", "    public int match(" ++ source.uriType ++ " uri) \x7b",
      "        return matcher.match(uri);", "    \x7d"] ++
    source.entryPoints.flatMap EntryPoint.lines ++ ["\x7d"]

/-- **The text of a router's source.** -/
def text (source : RouterSource String) : String :=
  Text.joinWith "\n" source.lines

end RouterSource

end Source

end ContentRouter
