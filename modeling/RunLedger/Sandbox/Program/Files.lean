import RunLedger.Sandbox.Program.Description

/-!
# Programs for files

Directories, files and pipes are made and taken away, their modes and times are changed, and paths are taken apart and
followed.

* `canonical?_empty`: the empty path leads nowhere.
-/

namespace RunLedger.Sandbox.Program

/-- Tells what cannot be done with a path. -/
def cannot (c : Call) (what path : String) (e : IoError) : Act Bool := do
  c.complain (what ++ " " ++ Quoted.always path ++ ": " ++ e.text)
  return false

/-- Changes the files, or tells why not. -/
def attempt (c : Call) (what path : String) (f : FileTree → Int → Nat → Except IoError FileTree) : Act Bool := do
  match ← Act.edit f with
  | .ok () => return true
  | .error e => cannot c what path e

/-- The mask of the process. -/
def umaskOf : Act Nat := do return ((← Act.record).map Process.umask).getD 0

/-- The mode that an option asks for, given what is granted otherwise. -/
def modeFor (c : Call) (a : Arguments) (isDirectory : Bool) (granted : Nat) : Act (Option Nat) := do
  let umask ← umaskOf
  match a.value? 'm' with
  | none => return some (Permission.without granted umask)
  | some text =>
    match Permission.changed? ⟨isDirectory, granted, umask⟩ text with
    | some mode => return some mode
    | none =>
      c.complain ("invalid mode" ++ (if isDirectory then " " else ": ") ++ Quoted.always text)
      return none

/-! ## Paths -/

/-- The last name of a path. -/
def lastName (path : String) : String :=
  let kept := FileTree.withoutSlashes path
  if kept = "/" then "/" else (kept.splitOn "/").getLastD ""

/-- A path without its last name. -/
def directoryName (path : String) : String :=
  let kept := (FileTree.withoutSlashes path).toList
  let front := (kept.reverse.dropWhile (· ≠ '/')).reverse
  if front.isEmpty then "." else FileTree.withoutSlashes (String.ofList front)

/-- `basename`: writes the last name of a path, without an ending if one is given. -/
def basename (c : Call) : Act Nat :=
  c.reading ⟨"az", "s", "", [("multiple", 'a'), ("suffix", 's'), ("zero", 'z')], true⟩ 1 fun a => do
    let shown := fun (ending path : String) =>
      let name := lastName path
      (if name ≠ ending && name.endsWith ending then (name.dropEnd ending.length).toString else name) ++
        (if a.has 'z' then "\x00" else "\n")
    let isMany := a.has 'a' || a.has 's'
    match a.operands with
    | [] => c.misused 1 "missing operand"
    | path :: rest =>
      if isMany then
        c.put (String.join (a.operands.map (shown ((a.value? 's').getD ""))))
        return 0
      else
        match rest with
        | [] | [_] =>
          c.put (shown (rest.headD "") path)
          return 0
        | _ :: extra :: _ => c.misused 1 ("extra operand " ++ Quoted.marked extra)

/-- `dirname`: writes paths without their last names. -/
def dirname (c : Call) : Act Nat :=
  c.reading ⟨"z", "", "", [("zero", 'z')], false⟩ 1 fun a => do
    if a.operands.isEmpty then c.misused 1 "missing operand"
    else
      c.put (String.join (a.operands.map fun path => directoryName path ++ if a.has 'z' then "\x00" else "\n"))
      return 0

/-- `pwd`: writes the path of the working directory. -/
def pwd (c : Call) : Act Nat :=
  c.reading ⟨"LP", "", "", [("logical", 'L'), ("physical", 'P')], false⟩ 1 fun a => do
    if !a.operands.isEmpty then c.complain "ignoring non-option arguments"
    let real ← Act.files fun t base => t.path? base
    let claimed := (c.environment.get? "PWD").filter fun p => FileTree.isAbsolute p && !(p.splitOn "/").contains ".."
    let isHere ← Act.files fun t base => claimed.any fun p => (t.find base p true).toOption = some base
    match if a.has 'L' && isHere then claimed else real with
    | some path =>
      c.put (path ++ "\n")
      return 0
    | none => c.refuse 1 ("couldn't find directory entry in '..' with matching i-node")

/-- Where a path leads in the end: all of it must be there, or all but the last name, or nothing of it. -/
def canonical? (t : FileTree) (base : Nat) (isStrict isLoose : Bool) (path : String) : Except IoError String :=
  let here := (t.path? base).getD "/"
  let join := fun (directory name : String) => if directory = "/" then "/" ++ name else directory ++ "/" ++ name
  match t.spot base (FileTree.withoutSlashes path) true with
  | .ok s =>
    match s.inode? with
    | some n =>
      if t.holds n Content.isDirectory then .ok ((t.path? n).getD "/")
      else if path.endsWith "/" then .error .notDirectory
      else .ok (join ((t.path? s.directory).getD "/") s.name)
    | none => if isStrict then .error .notFound else .ok (join ((t.path? s.directory).getD "/") s.name)
  | .error e =>
    if !isLoose then .error e
    else
      let names := (path.splitOn "/").filter fun name => name ≠ "" && name ≠ "."
      let start := if FileTree.isAbsolute path then [] else ((here.splitOn "/").filter (· ≠ "")).reverse
      let above := names.foldl (fun above name => if name = ".." then above.drop 1 else name :: above) start
      .ok ("/" ++ "/".intercalate above.reverse)

/-- `readlink`: writes what a link stands for, or where a path leads in the end. -/
def readlink (c : Call) : Act Nat :=
  let table : OptionTable := ⟨"fenmqsvz", "", "", [("canonicalize", 'f'), ("canonicalize-existing", 'e'),
    ("canonicalize-missing", 'm'), ("no-newline", 'n'), ("quiet", 'q'), ("silent", 's'), ("verbose", 'v'),
    ("zero", 'z')], false⟩
  c.reading table 1 fun a => do
    if a.operands.isEmpty then c.misused 1 "missing operand"
    else
      let ending := if a.has 'n' && a.operands.length = 1 then "" else if a.has 'z' then "\x00" else "\n"
      each 1 (fun path => do
        let found ← Act.files fun t base =>
          match a.last? ['f', 'e', 'm'] with
          | some flag => canonical? t base (flag = 'e') (flag = 'm') path
          | none =>
            match t.find base path false with
            | .ok n =>
              match t.content? n with
              | some (.link target) => .ok target
              | _ => .error .invalid
            | .error e => .error e
        match found with
        | .ok target =>
          c.put (target ++ ending)
          return true
        | .error e =>
          if a.has 'v' then c.complain (Quoted.name path ++ ": " ++ e.text)
          return false) a.operands

/-- The path that leads from one directory to another path. -/
def relativePath (start path : String) : String :=
  let names := fun (s : String) => (s.splitOn "/").filter (· ≠ "")
  let (a, b) := (names start, names path)
  let shared := ((a.zip b).takeWhile fun e => e.1 = e.2).length
  let steps := List.replicate (a.length - shared) ".." ++ b.drop shared
  if steps.isEmpty then "." else "/".intercalate steps

/-- `realpath`: writes where paths lead in the end. -/
def realpath (c : Call) : Act Nat :=
  let table : OptionTable := ⟨"emLPqsz", "R", "", [("canonicalize-existing", 'e'), ("canonicalize-missing", 'm'),
    ("logical", 'L'), ("physical", 'P'), ("quiet", 'q'), ("relative-to", 'R'), ("strip", 's'), ("no-symlinks", 's'),
    ("zero", 'z')], false⟩
  c.reading table 1 fun a => do
    if a.operands.isEmpty then c.misused 1 "missing operand"
    else
      let base? ← Act.files fun t base => (a.value? 'R').bind fun p => (canonical? t base true false p).toOption
      each 1 (fun path => do
        match ← Act.files fun t base => canonical? t base (a.has 'e') (a.has 'm') path with
        | .ok target =>
          c.put ((match base? with
            | some start => relativePath start target
            | none => target) ++ if a.has 'z' then "\x00" else "\n")
          return true
        | .error e =>
          if !a.has 'q' then c.complain (Quoted.name path ++ ": " ++ e.text)
          return false) a.operands

/-! ## Making and taking away -/

/-- The paths that lead to a path, from the first name on. -/
def waysTo (path : String) : List String :=
  let names := path.splitOn "/"
  ((List.range names.length).map fun i => "/".intercalate (names.take (i + 1))).filter fun p =>
    p ≠ "" && !p.endsWith "/"

/-- Makes a directory and those above it that are missing. -/
def makeDeep (c : Call) (isTold : Bool) (mode : Nat) : List String → Act Bool
  | [] => return true
  | path :: rest => do
    let found ← Act.files fun t base => (t.find base path true).map fun n => t.holds n Content.isDirectory
    match found with
    | .ok true => makeDeep c isTold mode rest
    | .ok false => cannot c "cannot create directory" path (if rest.isEmpty then .alreadyExists else .notDirectory)
    | .error .notFound =>
      let umask ← umaskOf
      let own := if rest.isEmpty then mode else Permission.without 0o777 umask ||| 0o300
      if ← attempt c "cannot create directory" path fun t now base => t.makeDirectory now base path own then
        if isTold then c.put (c.name ++ ": created directory " ++ Quoted.always path ++ "\n")
        makeDeep c isTold mode rest
      else return false
    | .error e => cannot c "cannot create directory" path e

/-- `mkdir`: makes directories. -/
def mkdir (c : Call) : Act Nat :=
  c.reading ⟨"pv", "m", "", [("parents", 'p'), ("verbose", 'v'), ("mode", 'm')], false⟩ 1 fun a => do
    if a.operands.isEmpty then c.misused 1 "missing operand"
    else
      match ← modeFor c a true 0o777 with
      | none => return 1
      | some mode =>
        each 1 (fun path => do
          if a.has 'p' && path ≠ "" then makeDeep c (a.has 'v') mode (waysTo (FileTree.withoutSlashes path))
          else
            let isMade ← attempt c "cannot create directory" path fun t now base => t.makeDirectory now base path mode
            if isMade && a.has 'v' then c.put (c.name ++ ": created directory " ++ Quoted.always path ++ "\n")
            return isMade) a.operands

/-- Takes directories away one after the other, as long as that goes well. -/
def removeEach (c : Call) (isTold ignores : Bool) : List String → Act Bool
  | [] => return true
  | path :: rest => do
    if isTold then c.put (c.name ++ ": removing directory, " ++ Quoted.always path ++ "\n")
    match ← Act.edit fun t now base => t.removeDirectory now base path with
    | .ok () => removeEach c isTold ignores rest
    | .error e => if ignores && e = .notEmpty then return true else cannot c "failed to remove" path e

/-- `rmdir`: takes empty directories away. -/
def rmdir (c : Call) : Act Nat :=
  let table : OptionTable := ⟨"pvI", "", "", [("parents", 'p'), ("verbose", 'v'), ("ignore-fail-on-non-empty", 'I')], false⟩
  c.reading table 1 fun a => do
    if a.operands.isEmpty then c.misused 1 "missing operand"
    else
      each 1 (fun path => removeEach c (a.has 'v') (a.has 'I')
        (if a.has 'p' then (waysTo (FileTree.withoutSlashes path)).reverse else [path])) a.operands

/-- The time that options of `touch` tell. Nothing if they tell what is no time. -/
def touchTime (c : Call) (a : Arguments) : Act (Option Int) := do
  let now ← Act.look World.now
  let exact ← Act.look fun w => World.birth + Int.ofNat w.clock
  let invalid := fun (s : String) => do
    c.complain ("invalid date format " ++ Quoted.always s)
    return none
  match a.value? 'r', a.value? 'd', a.value? 't' with
  | some path, _, _ =>
    match ← Act.files fun t base => (t.find base path true).map t.modified with
    | .ok time => return some time
    | .error e =>
      let _ ← cannot c "failed to get attributes of" path e
      return none
  | none, some s, _ => match Date.read? exact s with
    | some time => return some time
    | none => invalid s
  | none, none, some s => match Date.stamp? exact s with
    | some time => return some time
    | none => invalid s
  | none, none, none => return some now

/-- `touch`: changes the times of files, and makes those that are missing. -/
def touch (c : Call) : Act Nat :=
  let table : OptionTable := ⟨"acfhm", "drtT", "", [("no-create", 'c'), ("no-dereference", 'h'), ("date", 'd'),
    ("reference", 'r'), ("time", 'T')], false⟩
  c.reading table 1 fun a => do
    match ← touchTime c a with
    | none => return 1
    | some time =>
      if a.operands.isEmpty then c.misused 1 "missing file operand"
      else
        let isReadOnly := a.has 'a' && !a.has 'm'
        let stamp := fun (t : FileTree) (n : Nat) =>
          if isReadOnly then t else t.alter n fun i => { i with modified := time }
        each 1 (fun path => do
          if path = "-" then return true
          else
            match ← Act.files fun t base => t.find base path (!a.has 'h') with
            | .ok n =>
              if path.endsWith "/" && !(← Act.files fun t _ => t.holds n Content.isDirectory) then
                c.complain ("setting times of " ++ Quoted.always path ++ ": " ++ IoError.text .notDirectory)
                return false
              else
                Act.change fun w => { w with tree := stamp w.tree n }
                return true
            | .error e =>
              if a.has 'c' || a.has 'h' then
                if a.has 'c' && e = .notFound then return true else cannot c "setting times of" path e
              else
                match ← Act.open path .creating 0o666 3 true with
                | .ok descriptor =>
                  Act.close descriptor
                  Act.change fun w =>
                    match w.tree.find w.workdir path true with
                    | .ok n => { w with tree := stamp w.tree n }
                    | .error _ => w
                  return true
                | .error .isDirectory => cannot c "setting times of" path e
                | .error e => cannot c "cannot touch" path e) a.operands

/-- `mkfifo`: makes pipes with names. -/
def mkfifo (c : Call) : Act Nat :=
  c.reading ⟨"Z", "m", "", [("mode", 'm')], false⟩ 1 fun a => do
    if a.operands.isEmpty then c.misused 1 "missing operand"
    else
      match ← modeFor c a false 0o666 with
      | none => return 1
      | some mode =>
        each 1 (fun path => do
          let made : Except IoError Unit ← Act.work fun w =>
            match w.tree.make w.now w.workdir path mode fun _ => .pipe w.pipes.size with
            | .ok (_, tree) => (.ok (), { w with tree, pipes := w.pipes.push Pipe.empty })
            | .error e => (.error e, w)
          match made with
          | .ok () => return true
          | .error e => cannot c "cannot create fifo" path e) a.operands

/-! ## Removal -/

/-- What is asked before a file is removed, if anything is. -/
structure Removal where
  isDeep : Bool
  takesEmpty : Bool
  isForced : Bool
  isTold : Bool
  asks : Bool

/-- Reads an answer onto what was read of it, at most so many octets. -/
def readAnswer : Nat → String → Act String
  | 0, s => return s
  | n + 1, s => do
    match ← Act.read 0 1 with
    | .ok octets =>
      let c := Octets.ofArray octets
      if c.isEmpty || c = "\n" then return s else readAnswer n (s ++ c)
    | .error _ => return s

/-- Asks a question and reads the answer. -/
def confirmed (question : String) : Act Bool := do
  Call.tell question
  let answer ← readAnswer 4096 ""
  return answer.startsWith "y" || answer.startsWith "Y"

/-- Asks a question if that is wanted. Without one all is well. -/
def isGranted (asks : Bool) (question : String) : Act Bool := if asks then confirmed question else return true

/-- Removes what a path leads to, with what is in it if that is asked, to a depth. -/
def removePath (c : Call) (k : Removal) : Nat → String → Act Bool
  | 0, _ => return false
  | depth + 1, path => do
    match ← Act.files fun t base => t.find base path false with
    | .error e => if k.isForced && (e = .notFound || e = .notDirectory) then return true else cannot c "cannot remove" path e
    | .ok n =>
      let (isDirectory, kind, names) ← Act.files fun t _ =>
        (t.holds n Content.isDirectory, Description.kindName t n, (t.entries n).keys)
      if isDirectory then
        if !k.isDeep && !(k.takesEmpty) then cannot c "cannot remove" path .isDirectory
        else if !k.isDeep && !names.isEmpty then cannot c "cannot remove" path .notEmpty
        else if !(← isGranted (k.asks && !names.isEmpty)
            (c.name ++ ": descend into directory " ++ Quoted.always path ++ "? ")) then return true
        else
          let inner := fun name => if path.endsWith "/" then path ++ name else path ++ "/" ++ name
          let status ← each 1 (fun name => removePath c k depth (inner name)) names
          if status ≠ 0 then return false
          else if !(← isGranted k.asks (c.name ++ ": remove directory " ++ Quoted.always path ++ "? ")) then return true
          else
            let isGone ← attempt c "cannot remove" path fun t now base => t.removeDirectory now base path
            if isGone && k.isTold then c.put ("removed directory " ++ Quoted.always path ++ "\n")
            return isGone
      else if !(← isGranted k.asks (c.name ++ ": remove " ++ kind ++ " " ++ Quoted.always path ++ "? ")) then return true
      else
        let isGone ← attempt c "cannot remove" path fun t now base => t.removeFile now base path
        if isGone && k.isTold then c.put ("removed " ++ Quoted.always path ++ "\n")
        return isGone

/-- `rm`: takes files away, and directories with all that is in them if that is asked. -/
def rm (c : Call) : Act Nat :=
  let table : OptionTable := ⟨"dfiIrRvNO", "", "K", [("force", 'f'), ("interactive", 'K'), ("recursive", 'r'),
    ("dir", 'd'), ("verbose", 'v'), ("no-preserve-root", 'N'), ("preserve-root", 'O'), ("one-file-system", 'O')], false⟩
  c.reading table 1 fun a => do
    let isForced := a.last? ['f', 'i'] = some 'f'
    if a.operands.isEmpty then if isForced then return 0 else c.misused 1 "missing operand"
    else
      let k : Removal := ⟨a.has 'r' || a.has 'R', a.has 'd', isForced, a.has 'v', a.last? ['f', 'i'] = some 'i'⟩
      each 1 (fun path => do
        let last := lastName path
        if k.isDeep && (last = "." || last = "..") then
          c.complain ("refusing to remove '.' or '..' directory: skipping " ++ Quoted.always path)
          return false
        else if k.isDeep && last = "/" && !a.has 'N' then
          c.complain ("it is dangerous to operate recursively on " ++ Quoted.always path)
          c.complain "use --no-preserve-root to override this failsafe"
          return false
        else removePath c k 200 path) a.operands

/-- `unlink`: takes the name off one file. -/
def unlink (c : Call) : Act Nat :=
  c.reading ⟨"", "", "", [], false⟩ 1 fun a => do
    match a.operands with
    | [path] => return if ← attempt c "cannot unlink" path fun t now base => t.removeFile now base path then 0 else 1
    | operands => c.miscounted 1 operands 1

/-! ## Modes and sizes -/

/-- Changes the mode of what a path leads to, and of all in it if that is asked, to a depth. -/
def changeMode (c : Call) (a : Arguments) (change : Permission.Subject → Option Nat) : Nat → Bool → String → Act Bool
  | 0, _, _ => return false
  | depth + 1, isTop, path => do
    match ← Act.files fun t base => t.find base path true with
    | .error e =>
      let isLink ← Act.files fun t base => (t.find base path false).isOk
      if !isTop then return true
      else if isLink && e = .notFound then
        if !a.has 'f' then c.complain ("cannot operate on dangling symlink " ++ Quoted.always path)
        return false
      else if a.has 'f' then return false
      else cannot c "cannot access" path e
    | .ok n =>
      let (old, isDirectory, names) ← Act.files fun t _ =>
        (t.mode n, t.holds n Content.isDirectory, (t.entries n).keys)
      let umask ← umaskOf
      let mode := (change ⟨isDirectory, old, umask⟩).getD old
      Act.change fun w => { w with tree := w.tree.alter n fun i => { i with mode } }
      let told := fun (m : Nat) => Permission.octalOf 4 m ++ " (" ++ Permission.text m ++ ")"
      if a.has 'v' || (a.has 'c' && mode ≠ old) then
        c.put ("mode of " ++ Quoted.always path ++ (if mode = old then " retained as " ++ told old
          else " changed from " ++ told old ++ " to " ++ told mode) ++ "\n")
      if a.has 'R' && isDirectory then
        let links ← Act.files fun t _ => (t.entries n).entries.filterMap fun (name, child) =>
          if t.holds child Content.isLink then some name else none
        return (← each 1 (fun name => changeMode c a change depth false (path ++ "/" ++ name))
          (names.filter fun name => !links.contains name)) = 0
      else return true

/-- `chmod`: changes modes. -/
def chmod (c : Call) : Act Nat :=
  let probe : Permission.Subject := ⟨false, 0, 0⟩
  let isMode := fun (word : String) => word.startsWith "-" && (Permission.changed? probe word).isSome
  let modes := c.arguments.filter isMode
  let own := { c with argv := c.name :: c.arguments.filter fun w => !isMode w }
  let table : OptionTable := ⟨"Rvfc", "r", "", [("recursive", 'R'), ("verbose", 'v'), ("silent", 'f'), ("quiet", 'f'),
    ("changes", 'c'), ("reference", 'r')], false⟩
  own.reading table 1 fun a => do
    let reference ← match a.value? 'r' with
      | some path =>
        match ← Act.files fun t base => (t.find base path true).map t.mode with
        | .ok mode => pure (some (Permission.octal mode))
        | .error e =>
          let _ ← cannot c "failed to get attributes of" path e
          Act.quit (.exited 1)
      | none => pure none
    let words := match reference, modes with
      | some mode, _ => mode :: a.operands
      | none, [] => a.operands
      | none, modes => ",".intercalate modes :: a.operands
    match words with
    | [] => c.misused 1 "missing operand"
    | [mode] => c.misused 1 ("missing operand after " ++ Quoted.marked mode)
    | mode :: paths =>
      if (Permission.changed? probe mode).isNone then c.misused 1 ("invalid mode: " ++ Quoted.always mode)
      else each 1 (changeMode c a (fun s => Permission.changed? s mode) 200 true) paths

/-- `truncate`: cuts files to a size, or fills them up with zeros. -/
def truncate (c : Call) : Act Nat :=
  c.reading ⟨"co", "rs", "", [("no-create", 'c'), ("reference", 'r'), ("size", 's')], false⟩ 1 fun a => do
    match a.value? 's' with
    | none => c.misused 1 "you must specify either '--size' or '--reference'"
    | some text =>
      let (sign, digits) := match text.toList with
        | s :: ds => if ['+', '-', '<', '>', '/', '%'].contains s then (some s, String.ofList ds) else (none, text)
        | [] => (none, "")
      match size? digits with
      | none => c.refuse 1 ("Invalid number: " ++ Quoted.always text)
      | some n =>
        if a.operands.isEmpty then c.misused 1 "missing file operand"
        else
          each 1 (fun path => do
            if a.has 'c' && !(← Act.files fun t base => (t.find base path true).isOk) then return true
            else
              match ← Act.open path ⟨false, true, true, false, false, false⟩ 0o666 3 true with
              | .error e =>
                c.complain ("cannot open " ++ Quoted.always path ++ " for writing: " ++ e.text)
                return false
              | .ok descriptor =>
                Act.close descriptor
                Act.change fun w =>
                  match w.tree.find w.workdir path true with
                  | .error _ => w
                  | .ok inode =>
                    let resized := fun (octets : ByteArray) =>
                      let old := octets.size
                      let size := match sign with
                        | some '+' => old + n
                        | some '-' => old - n
                        | some '<' => min old n
                        | some '>' => max old n
                        | some '/' => if n = 0 then old else old / n * n
                        | some '%' => if n = 0 then old else (old + n - 1) / n * n
                        | _ => n
                      if size ≤ old then octets.extract 0 size
                      else octets ++ ByteArray.mk (Array.replicate (size - old) 0)
                    { w with tree := w.tree.rewrite w.now inode resized }
                return true) a.operands

/-- `mktemp`: makes a file or a directory with a name of its own. -/
def mktemp (c : Call) : Act Nat :=
  let table : OptionTable := ⟨"duqt", "sp", "", [("directory", 'd'), ("dry-run", 'u'), ("quiet", 'q'), ("suffix", 's'),
    ("tmpdir", 'p')], false⟩
  c.reading table 1 fun a => do
    let isInPlace := a.operands.isEmpty || a.has 'p' || a.has 't'
    let template := a.operands.headD "tmp.XXXXXXXXXX"
    let directory := (a.value? 'p').getD ((c.environment.get? "TMPDIR").getD "/tmp")
    let marks := (template.toList.reverse.takeWhile (· = 'X')).length
    if marks < 3 then c.refuse 1 ("too few X's in template " ++ Quoted.always template)
    else
      let seed ← Act.look fun w => w.clock + w.next * 7919 + w.tree.inodes.size * 104729
      let letters := "abcdefghijklmnopqrstuvwxyzABCDEFGHIJKLMNOPQRSTUVWXYZ0123456789".toList
      let (drawn, _) := (List.range marks).foldl (fun (cs, n) _ =>
        let n := (n * 1103515245 + 12345) % 2147483648
        (letters[n / 7 % 62]?.getD 'x' :: cs, n)) (([] : List Char), seed)
      let name := String.ofList (template.toList.take (template.length - marks) ++ drawn) ++ (a.value? 's').getD ""
      let path := if isInPlace then Executable.inside directory name else name
      let isMade ← if a.has 'u' then pure true
        else if a.has 'd' then
          attempt c "failed to create directory via template" template fun t now base => t.makeDirectory now base path 0o700
        else
          match ← Act.open path .creating 0o600 3 true with
          | .ok descriptor =>
            Act.close descriptor
            pure true
          | .error e => cannot c "failed to create file via template" template e
      if !isMade then return 1
      else
        c.put (path ++ "\n")
        return 0

/-- The empty path leads nowhere. -/
theorem canonical?_empty (t : FileTree) (base : Nat) (isStrict : Bool) :
    canonical? t base isStrict false "" = .error .notFound := by
  have h : FileTree.withoutSlashes "" = "" := by simp [FileTree.withoutSlashes]
  simp [canonical?, FileTree.spot, h]

end RunLedger.Sandbox.Program
