import ScaffoldRunner.Shell.Expansion

/-!
# Redirections

The targets of redirections are expanded first. A redirection then changes where a descriptor
leads; what it led to is kept aside until the command has ended.
-/

namespace ScaffoldRunner.Shell

/-- A redirection whose target is known. -/
inductive Redirected where
  | file (kind : RedirectKind) (descriptor : Nat) (path : String)
  /-- No target means that the descriptor is closed. -/
  | copy (descriptor : Nat) (target : Option Nat)
  | document (descriptor : Nat) (index : Nat) (expands : Bool)

namespace Redirected

def descriptor : Redirected → Nat
  | file _ descriptor _ | copy descriptor _ | document descriptor _ _ => descriptor

end Redirected

/-- Where descriptors led before: to a descriptor kept aside, or nowhere. -/
abbrev KeptAside := List (Nat × Option Nat)

namespace Redirection

/-- What is said about a file that cannot be opened, or cannot be made. -/
def reason (creates : Bool) : Fault → String
  | .file .notFound | .file .notDirectory =>
      if creates then "Directory nonexistent" else "No such file"
  | e => e.reason

/-- The target of a redirection to another descriptor. -/
def copied (descriptor : Nat) (text : String) : Sh Redirected := do
  match text.toList with
  | ['-'] => return .copy descriptor none
  | [d] =>
      if d.isDigit then return .copy descriptor (some (d.toNat - '0'.toNat))
      else bad
  | _ => bad
where
  bad : Sh Redirected := do
    modify fun s => { s with line := s.reader.line }
    Sh.fail "Syntax error: Bad fd number"

def expand (ev : Evaluator) : Redirect → Sh Redirected
  | .document descriptor index expands => return .document descriptor index expands
  | .file kind descriptor target => do
      let text ← Expansion.text ev { tilde := .start } target
      if kind = .copy then copied descriptor text else return .file kind descriptor text

/-- Expand the targets of redirections in order. -/
def expandAll (ev : Evaluator) (redirects : List Redirect) : Sh (List Redirected) :=
  redirects.mapM (expand ev)

/-- Open a file for a redirection; the answer is the descriptor. -/
def openFile (path : String) (access : Access) : Sh Nat := do
  let s ← get
  match ← Act.openFile (s.resolve path) access (0o666 &&& (0o777 - s.mask)) with
  | .ok descriptor => return descriptor
  | .error e =>
      if access = .reading then Sh.fail ("cannot open " ++ path ++ ": " ++ reason false e)
      else Sh.fail ("cannot create " ++ path ++ ": " ++ reason true e)

/-- The access that a redirection to a file asks for. With the option against it, a file that is
there already is not written to. -/
def access (kind : RedirectKind) (path : String) : Sh Access := do
  match kind with
  | .read | .copy => return .reading
  | .append => return .appending
  | .both => return .both
  | .clobber => return .writing
  | .write => do
      let s ← get
      if !s.has 'C' then return .writing
      else
        let files ← Act.files
        return if files.isFile (Octets.decode (s.resolve path)) then .creating else .writing

/-- How much of a document fits into a pipe in any case. -/
def documentSize : Nat := 4096

/-- The read end of a pipe with a document in it. -/
def openDocument (ev : Evaluator) (index : Nat) (expands : Bool) : Sh Nat := do
  let s ← get
  let word : Word := s.reader.documents.getD index []
  let text ← if expands then Expansion.text ev { quoted := true } word else pure (Word.text word)
  let (readEnd, writeEnd) ← Act.makePipe
  if text.length ≤ documentSize then Act.put writeEnd text
  else
    let writer : Sh Unit := do
      Act.close readEnd
      Act.put writeEnd text
      Act.finish 0
    let _ ← Act.fork fun s => writer s (fun _ _ => .ended 0) fun _ _ => .ended 0
  Act.close writeEnd
  return readEnd

/-- Let a descriptor lead where another one leads, and close that. -/
def move (source descriptor : Nat) : Sh Unit := do
  if source ≠ descriptor then
    let _ ← Act.copy source descriptor
    Act.close source

/-- Keep aside where a descriptor leads, unless that was done already. -/
def keep (descriptor : Nat) (kept : KeptAside) : Sh KeptAside := do
  if kept.any fun e => e.1 = descriptor then return kept
  else
    let aside ← Act.ask (.copyAbove descriptor 10)
    return (descriptor, aside) :: kept

/-- Do a redirection. Where the descriptor led before is kept aside if so asked. -/
def apply (ev : Evaluator) (keeps : Bool) (kept : KeptAside) (r : Redirected) :
    Sh KeptAside := do
  match r with
  | .copy descriptor (some target) =>
      if target = descriptor then return kept
      else do
        let kept ← if keeps then keep descriptor kept else pure kept
        if ← Act.copy target descriptor then return kept
        else do
          giveBack kept
          Sh.fail (toString target ++ ": " ++ Fault.badDescriptor.reason)
  | .copy descriptor none => do
      let kept ← if keeps then keep descriptor kept else pure kept
      Act.close descriptor
      return kept
  | .file kind descriptor path => do
      let opened ← ensureBack kept (do openFile path (← access kind path))
      settle opened descriptor
  | .document descriptor index expands => do
      let opened ← ensureBack kept (openDocument ev index expands)
      settle opened descriptor
where
  giveBack (kept : KeptAside) : Sh Unit := kept.forM fun (descriptor, aside) => do
    match aside with
    | some aside => move aside descriptor
    | none => Act.close descriptor
  ensureBack (kept : KeptAside) (act : Sh Nat) : Sh Nat := do
    try act
    catch stop =>
      giveBack kept
      throw stop
  settle (opened descriptor : Nat) : Sh KeptAside := do
    if opened = descriptor then
      return if keeps && !(kept.any fun e => e.1 = descriptor) then (descriptor, none) :: kept
        else kept
    else do
      let kept ← if keeps then keep descriptor kept else pure kept
      move opened descriptor
      return kept

/-- Let descriptors lead where they led before. -/
def giveBack (kept : KeptAside) : Sh Unit := apply.giveBack kept

def applyAll (ev : Evaluator) (redirects : List Redirected) : Sh Unit := do
  let _ ← redirects.foldlM (apply ev false) []

/-- Do redirections that can be taken back; `none` if one of them fails. -/
def begin? (ev : Evaluator) (redirects : List Redirected) : Sh (Option KeptAside) := do
  try return some (← redirects.foldlM (apply ev true) [])
  catch
    | .failed => return none
    | stop => throw stop

/-- Forget what was kept aside, so that the redirections stay. -/
def forget (kept : KeptAside) : Sh Unit := kept.forM fun (_, aside) => do
  if let some aside := aside then Act.close aside

end Redirection

end ScaffoldRunner.Shell
