import DocumentSearch.Admin.Listing
import DocumentSearch.Connection.Client
import DocumentSearch.Dialect

/-!
# Administration of indices and aliases

Every name of an index or an alias is given without the suffix of the deployment and sent with it.
What the client refuses becomes an error of the administration, or the plain answer that something
is absent.
-/
namespace DocumentSearch

/-- What administers the indices of one deployment. -/
structure Admin where
  suffix : Value
  client : Client

namespace Admin

/-- A suffix that counts as false is none. -/
def opened (suffix : Value) (client : Client) : Admin := ⟨suffix.orElse "", client⟩

abbrev Outcome (α : Type) := Except Error α × Admin

def resolve (suffix name : Value) : Except Error String :=
  if name.truthy then .ok (name.text ++ suffix.text) else .error (.admin .emptyName)

/-- Sends a call; `refused` says what a refusal means and `read` what an answer means. -/
def ask {α : Type} (a : Admin) (method : String) (arguments : Entries)
    (refused : ClientError → Except Error α) (read : Value → Except Error α) : Outcome α :=
  let (answer, client) := a.client.send ⟨method, arguments⟩
  let a := { a with client := client }
  match answer with
  | .value v => (read v, a)
  | .refused e => (refused e, a)
  | .broken e => (.error e, a)

def given {α β : Type} (a : Admin) (v : Except Error α) (f : α → Outcome β) : Outcome β :=
  match v with
  | .ok v => f v
  | .error e => (.error e, a)

def acknowledged (response : Value) : Except Error Bool := do
  return (← response.get "acknowledged" (.bool false)).truthy

def fail {α : Type} (fault : AdminFault) : Except Error α := .error (.admin fault)

def reportedType (e : ClientError) : Value :=
  match e.body with
  | .map entries =>
    match Value.under entries "error" with
    | .map error => Value.under error "type"
    | _ => .null
  | _ => .null

/-- A bad request because the index is there already says so by its type or in its text. -/
def alreadyExists (e : ClientError) : Except Misuse Bool :=
  if e.kind = .badRequest then
    ((reportedType e).orElse e.text).holds "resource_already_exists_exception"
  else .ok false

def createIndex (a : Admin) (index mappings settings : Value) : Outcome Bool :=
  a.given (resolve a.suffix index) fun name =>
    a.ask "indices.create"
      [("index", .str name),
        ("body", .map (setting "mappings" mappings ++ setting "settings" settings))]
      (fun e => do fail (if ← alreadyExists e then .indexExists name else .creation name e.text))
      acknowledged
where
  setting (key : String) (v : Value) : Entries := if v.truthy then [(.str key, v)] else []

def deleteIndex (a : Admin) (index : Value) : Outcome Bool :=
  a.given (resolve a.suffix index) fun name =>
    a.ask "indices.delete" [("index", .str name)]
      (fun e => if e.kind = .notFound then .ok false else fail (.deletion name e.text))
      acknowledged

def indexExists (a : Admin) (index : Value) : Outcome Bool :=
  a.given (resolve a.suffix index) fun name =>
    a.ask "indices.exists" [("index", .str name)] (fun e => fail (.existence name e.text))
      (fun v => .ok v.truthy)

def putMapping (a : Admin) (index mappings : Value) : Outcome Bool :=
  a.given (resolve a.suffix index) fun name =>
    a.given (Misuse.lift mappings.toEntries) fun body =>
      a.ask "indices.put_mapping" [("index", .str name), ("body", .map body)]
        (fun e => fail (if e.kind = .notFound then .indexMissing name else .mapping name e.text))
        acknowledged

/-- The body of a reply object, or the reply itself. -/
def bodyOf : Value → Value
  | .response body => body
  | .record cls attributes => (Table.find? attributes "body").getD (.record cls attributes)
  | v => v

/-- The rows of a listing; anything but a list has none. -/
def rows (response : Value) : List Value := (bodyOf response).list?.getD []

def listIndices (a : Admin) (pattern : Value) : Outcome (List IndexInfo) :=
  a.given (resolve a.suffix pattern) fun name =>
    a.ask "cat.indices" [("index", .str name), ("format", .str "json")]
      (fun e => if e.kind = .notFound then .ok [] else fail (.indexListing name e.text))
      (fun v => Misuse.lift ((rows v).mapM IndexInfo.ofRow))

def createAlias (a : Admin) (index name : Value) : Outcome Bool :=
  a.given (resolve a.suffix index) fun index =>
    a.given (resolve a.suffix name) fun name =>
      a.ask "indices.put_alias" [("index", .str index), ("name", .str name)]
        (fun e => fail (if e.kind = .notFound then .indexMissing index
          else .aliasCreation index name e.text))
        acknowledged

def aliasExists (a : Admin) (name index : Value) : Outcome Bool :=
  a.given (resolve a.suffix name) fun name =>
    a.given (onIndex a.suffix index) fun more =>
      a.ask "indices.exists_alias" (("name", .str name) :: more)
        (fun e => fail (.aliasExistence name e.text)) (fun v => .ok v.truthy)
where
  onIndex (suffix index : Value) : Except Error Entries := do
    if index.truthy then return [("index", .str (← resolve suffix index))] else return []

def aliasIndices (a : Admin) (name : Value) : Outcome (List Value) :=
  a.given (resolve a.suffix name) fun name =>
    a.ask "indices.get_alias" [("name", .str name)]
      (fun e => fail (if e.kind = .notFound then .aliasMissing name else .aliasLookup name e.text))
      (fun v => do return Table.keys (← (bodyOf v).entries))

/-- The suffix is added to the name under a key, if there is one. -/
def resolveUnder (suffix : Value) (target : Entries) (key : String) : Except Error Entries :=
  match target.find? key with
  | some name => do return target.insert key (.str (← resolve suffix name))
  | none => .ok target

/-- An action is a table of one entry: what to do, and with which index and alias. -/
def resolveAction (suffix action : Value) : Except Error Value := do
  if (← action.items).length ≠ 1 then throw (.admin (.severalActions action))
  match ← action.entries with
  | [(verb, target)] =>
    let target ← target.toEntries
    let target ← resolveUnder suffix target "index"
    return .map [(verb, .map (← resolveUnder suffix target "alias"))]
  | _ => throw (.admin (.severalActions action))

def updateAliases (a : Admin) (actions : Value) : Outcome Bool :=
  a.given (if actions.truthy then Misuse.lift actions.items else fail .noActions) fun actions =>
    a.given (actions.mapM (resolveAction a.suffix)) fun resolved =>
      a.ask "indices.update_aliases" [("body", .map [("actions", .list resolved)])]
        (fun e => fail (if e.kind = .notFound then .actionIndexMissing e.text else .actions e.text))
        acknowledged

/-- Whether a name ends with a suffix, or with one of several. -/
def endsWith (name : List Char) : List Value → Except Misuse Bool
  | [] => .ok false
  | .str suffix :: rest =>
    if suffix.toList.isSuffixOf name then .ok true else endsWith name rest
  | _ :: _ => .error .illTyped

/-- As much as a suffix is long is taken off a name that ends with it. -/
def cutSuffix (name : List Char) (suffixes : List Value) (length : Nat) : Except Misuse Value := do
  let kept := if ← endsWith name suffixes then name.take (name.length - length) else name
  return .str (String.ofList kept)

def withoutSuffix (suffix index : Value) : Except Misuse Value :=
  if !suffix.truthy then .ok index
  else
    match suffix, index with
    | .str s, .str index => cutSuffix index.toList [suffix] s.length
    | .tuple choices, .str index => cutSuffix index.toList choices choices.length
    | _, _ => .error .illTyped

def aliasAction (verb : String) (index name : Value) : Value :=
  .map [(.str verb, .map [("index", index), ("alias", name)])]

/-- The names of the indices that an alias is to be removed from; a missing alias is on none. -/
def currentIndices (a : Admin) (name : Value) : Outcome (List Value) :=
  match a.aliasIndices name with
  | (.ok indices, a) => (Misuse.lift (indices.mapM (withoutSuffix a.suffix)), a)
  | (.error (.admin (.aliasMissing _)), a) => (.ok [], a)
  | (.error e, a) => (.error e, a)

/-- Moves an alias to an index, from a given one or from all that it is on. -/
def swapAlias (a : Admin) (name newIndex oldIndex : Value) : Outcome Bool :=
  let (old, a) := if oldIndex.truthy then (.ok [oldIndex], a) else a.currentIndices name
  a.given old fun old =>
    a.updateAliases (.list (old.map (fun index => aliasAction "remove" index name) ++
      [aliasAction "add" newIndex name]))

def listAliases (a : Admin) (pattern : Value) : Outcome (List AliasInfo) :=
  a.given (resolve a.suffix pattern) fun name =>
    a.ask "cat.aliases" [("name", .str name), ("format", .str "json")]
      (fun e => if e.kind = .notFound then .ok [] else fail (.aliasListing name e.text))
      (fun v => Misuse.lift ((rows v).mapM AliasInfo.ofRow))

end Admin

end DocumentSearch
