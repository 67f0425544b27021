import RunLedger.Sandbox.Program.Files

/-!
# Programs that give files other places

Files are copied, moved, and given more names. Where many go at once they go into a directory.

* `joined_slash`: a name comes right behind a slash.
-/

namespace RunLedger.Sandbox.Program

/-- Where sources go: into a directory, or to a path of their own. -/
structure Destination where
  sources : List String
  target : String
  isDirectory : Bool

/-- The path of a name in a directory. -/
def joined (directory name : String) : String :=
  if directory.endsWith "/" then directory ++ name else directory ++ "/" ++ name

/-- The path of a source at its destination. -/
def Destination.path (d : Destination) (source : String) : String :=
  if d.isDirectory then joined d.target (lastName source) else d.target

/-- The options of `cp`, `mv` and `ln`. -/
def placeTable (flags : String) (more : List (String × Char)) : OptionTable :=
  ⟨flags, "tS", "bU", [("target-directory", 't'), ("no-target-directory", 'T'), ("force", 'f'), ("interactive", 'i'),
    ("verbose", 'v'), ("suffix", 'S'), ("backup", 'b'), ("update", 'U')] ++ more, false⟩

/-- Sorts operands into sources and a target, and goes on with them. -/
def withDestination (c : Call) (a : Arguments) (follows allowsOne : Bool) (f : Destination → Act Nat) : Act Nat := do
  let isDirectory := fun (path : String) => Act.files fun t base =>
    (match t.find base path follows with
      | .ok n => t.holds n Content.isDirectory
      | .error _ => false)
  let absent := fun (what target : String) => do
    match ← Act.files fun t base => t.find base target true with
    | .ok _ => c.refuse 1 (what ++ Quoted.always target ++ ": " ++ IoError.text .notDirectory)
    | .error e => c.refuse 1 (what ++ Quoted.always target ++ ": " ++ e.text)
  match a.value? 't', a.operands with
  | some target, sources =>
    if sources.isEmpty then c.misused 1 "missing file operand"
    else if ← Act.files fun t base => t.leadsTo base target Content.isDirectory then f ⟨sources, target, true⟩
    else absent "target directory " target
  | none, [] => c.misused 1 "missing file operand"
  | none, [source] =>
    if allowsOne && !a.has 'T' then f ⟨[source], ".", true⟩
    else c.misused 1 ("missing destination file operand after " ++ Quoted.marked source)
  | none, [source, target] =>
    if a.has 'T' then f ⟨[source], target, false⟩ else f ⟨[source], target, ← isDirectory target⟩
  | none, operands =>
    let target := operands.getLastD ""
    if a.has 'T' then c.misused 1 ("extra operand " ++ Quoted.marked (operands[2]?.getD ""))
    else if ← isDirectory target then f ⟨operands.dropLast, target, true⟩
    else absent "target " target

/-! ## Copies -/

/-- How files are copied. -/
structure Copying where
  isDeep : Bool
  /-- Whether links are followed: all of them, none, or only those that are named. -/
  followsAll : Bool
  followsNamed : Bool
  keepsMode : Bool
  keepsTime : Bool
  isForced : Bool
  skipsOld : Bool
  skipsNewer : Bool
  asks : Bool
  isTold : Bool
  links : Bool
  standsFor : Bool

/-- What is said of one file that is given two names. -/
def sameFile (source target : String) : String :=
  Quoted.always source ++ " and " ++ Quoted.always target ++ " are the same file"

/-- Writes octets to a path, as a new file or over an old one. -/
def copyOctets (c : Call) (target : String) (mode : Nat) (octets : ByteArray) : Act Bool := do
  match ← Act.open target .writing mode 3 true with
  | .ok descriptor =>
    let result ← Act.write descriptor octets
    Act.close descriptor
    match result with
    | .ok () => return true
    | .error e =>
      c.complain ("error writing " ++ Quoted.always target ++ ": " ++ e.text)
      return false
  | .error .isDirectory => cannot c "cannot create regular file" target .notDirectory
  | .error e => cannot c "cannot create regular file" target e

/-- Copies what a path leads to, with what is in it if that is asked, to a depth. -/
def copyPath (c : Call) (k : Copying) : Nat → Bool → String → String → Act Bool
  | 0, _, _, _ => return false
  | depth + 1, isTop, source, target => do
    let follows := k.followsAll || (isTop && k.followsNamed)
    match ← Act.files fun t base => t.find base source follows with
    | .error e => cannot c "cannot stat" source e
    | .ok n =>
      let t ← Act.look World.tree
      let base ← Act.look World.workdir
      let there := (t.find base target true).toOption
      let isDirectory := t.holds n Content.isDirectory
      let told := do if k.isTold then c.put (Quoted.always source ++ " -> " ++ Quoted.always target ++ "\n")
      let finish := do
        match ← Act.files fun t base => t.find base target follows with
        | .ok m =>
          Act.change fun w => { w with tree := w.tree.alter m fun i => { i with
            mode := if k.keepsMode then t.mode n else i.mode
            modified := if k.keepsTime then t.modified n else i.modified } }
        | .error _ => pure ()
        return true
      let unreachable := match t.find base target true with
        | .error .notFound | .ok _ => none
        | .error e => some e
      if let some e := unreachable then cannot c "cannot stat" target e
      else if isDirectory && !k.isDeep then
        c.complain ("-r not specified; omitting directory " ++ Quoted.always source)
        return false
      else if there = some n then
        c.complain (sameFile source target)
        return false
      else if there.isSome && k.skipsOld then
        return true
      else if k.skipsNewer && there.any fun m => t.modified n ≤ t.modified m then return true
      else
        match isDirectory, there.map fun m => t.holds m Content.isDirectory with
        | true, some false =>
          c.complain ("cannot overwrite non-directory " ++ Quoted.always target ++ " with directory " ++ Quoted.always source)
          return false
        | false, some true =>
          c.complain ("cannot overwrite directory " ++ Quoted.always target ++ " with non-directory")
          return false
        | true, old =>
          let isInside := match t.spot base target true with
            | .ok s => t.isUnder n t.inodes.size s.directory
            | .error _ => false
          if isInside then
            c.complain ("cannot copy a directory, " ++ Quoted.always source ++ ", into itself, " ++ Quoted.always target)
            return false
          else
            let isMade ← if old.isSome then pure true
              else
                let mode := Permission.without (t.mode n) (← umaskOf)
                attempt c "cannot create directory" target fun t now base => t.makeDirectory now base target (mode ||| 0o300)
            if !isMade then return false
            else
              told
              let names := (t.entries n).keys
              let status ← each 1 (fun name => copyPath c k depth false (joined source name) (joined target name)) names
              let _ ← finish
              return status = 0
        | false, old =>
          if !(← isGranted (k.asks && old.isSome) (c.name ++ ": overwrite " ++ Quoted.always target ++ "? ")) then
            return false
          else
            told
            match t.content? n with
            | some (.link goal) =>
              let isGone ← if (t.find base target false).isOk then
                  attempt c "cannot remove" target fun t now base => t.removeFile now base target
                else pure true
              if isGone then attempt c "cannot create symbolic link" target fun t now base => t.makeLink now base goal target
              else return false
            | some (.pipe _) =>
              if k.isDeep then
                let made : Except IoError Unit ← Act.work fun w =>
                  match w.tree.make w.now w.workdir target (t.mode n) fun _ => .pipe w.pipes.size with
                  | .ok (_, tree) => (.ok (), { w with tree, pipes := w.pipes.push Pipe.empty })
                  | .error e => (.error e, w)
                match made with
                | .ok () => return true
                | .error e => cannot c "cannot create fifo" target e
              else copyContents source target (t.mode n) finish
            | _ =>
              if k.links then
                attempt c "cannot create hard link" target fun t now base => t.makeName now base source target true
              else if k.standsFor then
                attempt c "cannot create symbolic link" target fun t now base => t.makeLink now base source target
              else if old.isNone && (t.find base target false).isOk then
                c.complain ("not writing through dangling symlink " ++ Quoted.always target)
                return false
              else copyContents source target (t.mode n) finish
where
  /-- Copies what is read from a path. -/
  copyContents (source target : String) (mode : Nat) (finish : Act Bool) : Act Bool := do
    match ← contents source with
    | .ok text => if ← copyOctets c target mode (Octets.array text) then finish else return false
    | .error e =>
      c.complain ("cannot open " ++ Quoted.always source ++ " for reading: " ++ e.error.text)
      return false

/-- `cp`: copies files. -/
def cp (c : Call) : Act Nat :=
  let table := placeTable "adfHilLnpPrRsTuvx" [("archive", 'a'), ("dereference", 'L'), ("no-dereference", 'P'),
    ("no-clobber", 'n'), ("preserve", 'p'), ("recursive", 'r'), ("link", 'l'), ("symbolic-link", 's')]
  c.reading table 1 fun a =>
    withDestination c a true false fun d => do
      let isDeep := a.has 'r' || a.has 'R' || a.has 'a'
      let manner := a.last? ['L', 'P', 'H', 'd', 'a']
      let followsAll := manner = some 'L' || (manner.isNone && !isDeep)
      let keeps := a.has 'p' || a.has 'a'
      if a.has 'n' then
        c.complain "warning: behavior of -n is non-portable and may change in future; use --update=none instead"
      let k : Copying := ⟨isDeep, followsAll, followsAll || manner = some 'H', keeps, keeps, a.has 'f',
        a.has 'n' || a.value? 'U' = some "none", a.has 'u' || (a.has 'U' && (a.value? 'U').getD "older" = "older"),
        a.last? ['i', 'f', 'n'] = some 'i', a.has 'v', a.has 'l', a.has 's'⟩
      each 1 (fun source => copyPath c k 200 true source (d.path source)) d.sources

/-! ## Moves -/

/-- Moves what a path leads to. -/
def movePath (c : Call) (a : Arguments) (source target : String) : Act Bool := do
  match ← Act.files fun t base => t.find base (FileTree.withoutSlashes source) false with
  | .error e => cannot c "cannot stat" source e
  | .ok n =>
    let t ← Act.look World.tree
    let base ← Act.look World.workdir
    let there := (t.find base target false).toOption
    let isDirectory := t.holds n Content.isDirectory
    if there = some n then
      c.complain (sameFile source target)
      return false
    else if there.isSome && a.last? ['n', 'f', 'i'] = some 'n' then
      c.complain ("not replacing " ++ Quoted.always target)
      return false
    else if (a.has 'u' || a.has 'U') && there.any fun m => t.modified n ≤ t.modified m then return true
    else
      match isDirectory, there.map fun m => t.holds m Content.isDirectory with
      | true, some false =>
        c.complain ("cannot overwrite non-directory " ++ Quoted.always target ++ " with directory " ++ Quoted.always source)
        return false
      | false, some true =>
        c.complain ("cannot overwrite directory " ++ Quoted.always target ++ " with non-directory")
        return false
      | _, _ =>
        if !(← isGranted (there.isSome && a.last? ['n', 'f', 'i'] = some 'i')
            (c.name ++ ": overwrite " ++ Quoted.always target ++ "? ")) then return false
        else
          match ← Act.edit fun t now base => t.rename now base source target with
          | .ok () =>
            if a.has 'v' then c.put ("renamed " ++ Quoted.always source ++ " -> " ++ Quoted.always target ++ "\n")
            return true
          | .error .invalid =>
            c.complain ("cannot move " ++ Quoted.always source ++ " to a subdirectory of itself, " ++ Quoted.always target)
            return false
          | .error e =>
            c.complain ("cannot move " ++ Quoted.always source ++ " to " ++ Quoted.always target ++ ": " ++ e.text)
            return false

/-- `mv`: moves files. -/
def mv (c : Call) : Act Nat :=
  c.reading (placeTable "finTuv" [("no-clobber", 'n')]) 1 fun a =>
    withDestination c a true false fun d => each 1 (fun source => movePath c a source (d.path source)) d.sources

/-! ## More names -/

/-- Gives what a path leads to another name, or makes a link that stands for the path. -/
def linkPath (c : Call) (a : Arguments) (source target : String) : Act Bool := do
  let isSoft := a.has 's'
  let t ← Act.look World.tree
  let base ← Act.look World.workdir
  let follows := a.last? ['L', 'P'] = some 'L'
  let what := if isSoft then "failed to create symbolic link" else "failed to create hard link"
  let refused := fun (e : IoError) => do
    let hint := if isSoft && e ≠ .alreadyExists then if source = "" then " -> " ++ Quoted.always source else ""
      else if !isSoft && e ≠ .alreadyExists then " => " ++ Quoted.always source else ""
    c.complain (what ++ " " ++ Quoted.always target ++ hint ++ ": " ++ e.text)
    return false
  let old := (t.find base target false).toOption
  let source? := if isSoft then .ok none else (t.find base source follows).map some
  match source? with
  | .error e => cannot c "failed to access" source e
  | .ok n? =>
    if n?.any fun n => t.holds n Content.isDirectory then
      c.complain (Quoted.name source ++ ": hard link not allowed for directory")
      return false
    else
      let isForced := a.has 'f' || a.has 'i'
      if isForced && old.any fun m => t.holds m Content.isDirectory then
        c.complain (target ++ ": cannot overwrite directory")
        return false
      else
        let isReplaced := isForced && old.isSome && old ≠ n?
        if isReplaced then
          let _ ← Act.edit fun t now base => t.removeFile now base target
        let own ← if isSoft && a.has 'r' then do
            let start ← Act.files fun t base => canonical? t base false true (directoryName target)
            let goal ← Act.files fun t base => canonical? t base false true source
            pure (match start, goal with
              | .ok start, .ok goal => relativePath start goal
              | _, _ => source)
          else pure source
        if isForced && old.isSome && old = n? then return true
        else
          match ← Act.edit fun t now base => if isSoft then t.makeLink now base own target
            else t.makeName now base source target follows with
          | .ok () =>
            if a.has 'v' then
              c.put (Quoted.always target ++ (if isSoft then " -> " else " => ") ++ Quoted.always own ++ "\n")
            return true
          | .error e => refused e

/-- `ln`: gives files more names, or makes links that stand for paths. -/
def ln (c : Call) : Act Nat :=
  let table := placeTable "dfFiLnPrsTv" [("symbolic", 's'), ("no-dereference", 'n'), ("relative", 'r'), ("logical", 'L'),
    ("physical", 'P')]
  c.reading table 1 fun a =>
    withDestination c a (!a.has 'n') true fun d => each 1 (fun source => linkPath c a source (d.path source)) d.sources

/-- `link`: gives one file one more name. -/
def link (c : Call) : Act Nat :=
  c.reading ⟨"", "", "", [], false⟩ 1 fun a => do
    match a.operands with
    | [source, target] =>
      match ← Act.edit fun t now base => t.makeName now base source target false with
      | .ok () => return 0
      | .error e =>
        c.refuse 1 ("cannot create link " ++ Quoted.always target ++ " to " ++ Quoted.always source ++ ": " ++ e.text)
    | operands => c.miscounted 1 operands 2

/-- A name comes right behind a slash. -/
theorem joined_slash (name : String) : joined "/" name = "/" ++ name := by
  have h : ("/" : String).endsWith "/" = true := by decide +kernel
  simp [joined, h]

end RunLedger.Sandbox.Program
