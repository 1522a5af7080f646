import CompilerDriver.Posix.Kernel.Mode
import CompilerDriver.Posix.Utility.Removing
import CompilerDriver.Posix.Utility.Replacing

/-!
# Copying

`cp`: copies files and, if that is asked for, everything in directories.
-/

namespace CompilerDriver.Utility

open Kernel

/-- Which links of the sources are followed. -/
inductive Following where
  | never
  | operands
  | always
  deriving DecidableEq, Repr, Inhabited

structure CopyStyle where
  recursive : Bool
  follows : Following
  clobbering : Clobbering
  /-- A file that cannot be opened is removed first. -/
  forces : Bool
  /-- Every file that is in the way is removed first. -/
  removesFirst : Bool
  hardLinks : Bool
  symbolicLinks : Bool
  updates : Bool
  verbose : Bool
  /-- What is neither a file nor a link is read as a file is. -/
  readsDevices : Bool
  attributesOnly : Bool
  parents : Bool
  keepsMode : Bool
  keepsTimes : Bool
  keepsLinks : Bool
  /-- New files get the mode that they would have by themselves. -/
  dropsMode : Bool
  backups : Backups

/-- What is known of the copies so far. -/
structure CopyState where
  /-- There are several sources, so that one may get in the way of another. -/
  watches : Bool := false
  sources : Met := []
  made : Met := []
  /-- The nodes that have been copied, and under which name. -/
  copied : List (Nat × String) := []
  /-- The operand that is being copied, and where to. -/
  top : String × String := ("", "")
  /-- A directory has been made for this operand. -/
  madeDirectory : Bool := false
  /-- A directory has been found to go into itself. -/
  intoItself : Bool := false
  deriving Inhabited

abbrev Copying := StateT CopyState Act

namespace Copying

def ask {α : Type} (op : Op α) : Copying α := StateT.lift (liftM op)

def does {α : Type} (act : Act α) : Copying α := StateT.lift act

def refuse (call : Call) (message : String) : Copying Bool := do
  does (complain call message)
  return false

def refuseFor (call : Call) (what : String) (cause : SystemError) : Copying Bool :=
  refuse call (what ++ ": " ++ cause.notice)

def say (line : String) : Copying Unit := does (Act.printLine line)

/-- Tells of a copy. -/
def tell (style : CopyStyle) (source target : String) (backup : Option String) : Copying Unit :=
  if style.verbose then
    let note := match backup with
      | some name => " (backup: " ++ quoteAlways name ++ ")"
      | none => ""
    say (quoteAlways source ++ " -> " ++ quoteAlways target ++ note)
  else return

/-! ## Sameness -/

/-- Whether a file may go where another one is.  Also tells whether nothing is left to be done. -/
def sameFileVerdict (style : CopyStyle) (source target : String) (from' to' : Status) :
    Op (Bool × Bool) := do
  let same := isSameFile from' to'
  if same ∧ style.hardLinks then return (true, true)
  let isLink (s : Status) : Bool := s.kind == .link
  let sameName ← isSameName source target
  if style.follows = .never ∧ isLink from' ∧ isLink to' then
    if !sameName then
      if style.backups.isOn then return (true, false)
      if same then return (true, true)
    return (!sameName, false)
  if style.follows ≠ .never ∧ !same then return (true, false)
  let ownFrom ← if style.follows = .never then pure (some from') else Op.ownStatus? source
  let ownTo ← if style.follows = .never then pure (some to') else Op.ownStatus? target
  match ownFrom, ownTo with
  | some ownFrom, some ownTo =>
      let sameLink := isSameFile ownFrom ownTo
      if style.follows ≠ .never ∧ isLink ownFrom ∧ isLink ownTo ∧ style.removesFirst then
        return (true, false)
      if style.backups.isOn then
        if !sameLink then
          return (!(style.follows ≠ .never ∧ isLink ownFrom ∧ !isLink ownTo), false)
        return (!sameName, false)
      if style.removesFirst then
        if isLink ownTo then return (true, false)
        if sameLink ∧ 1 < ownTo.links ∧ !sameName then return (true, false)
      if !isLink ownFrom ∧ !isLink ownTo then
        if !sameLink then return (true, false)
        if style.hardLinks then return (true, true)
      if style.symbolicLinks ∧ isLink ownTo then return (true, false)
      if style.follows = .never then
        let behind (path : String) (own : Status) : Op (Option Status) :=
          if isLink own then Op.status? path else return some own
        match ← behind source ownFrom, ← behind target ownTo with
        | some a, some b =>
            if !isSameFile a b then return (true, false)
            if style.hardLinks then return (true, !isLink ownTo)
        | _, _ => return (true, false)
      return (false, false)
  | _, _ => return (true, false)

/-! ## Content and attributes -/

/-- Passes on what is read of one descriptor to another one. -/
def pass (source target : Nat) : Act (Except SystemError Unit) :=
  Act.forever do
    match ← Act.readBytes source blockSize with
    | .error e => return some (.error e)
    | .ok bytes =>
        if bytes.isEmpty then return some (.ok ())
        match ← Act.writeBytes target bytes with
        | .ok () => return none
        | .error e => return some (.error e)

/-- Opens the file that a copy goes to.  Gives nothing if that has been complained about. -/
def openTarget (call : Call) (style : CopyStyle) (target : String) (isNew : Bool) (mode : Nat) :
    Copying (Option Nat) := do
  let create : Copying (Except SystemError Nat) := do
    let access : Access := { writable := true, creating := true, exclusive := true, mode := mode }
    match ← does (Act.openPath target access) with
    | .ok d => return .ok d
    | .error .alreadyExists =>
        match ← ask (Op.readLink target) with
        | .error _ => return .error .alreadyExists
        | .ok _ =>
            if (← does (Act.setting? "POSIXLY_CORRECT")).isSome then
              does (Act.openPath target { access with exclusive := false })
            else return .error .busy
    | .error e => return .error (if e = .isDirectory ∧ target.endsWith "/" then .notDirectory else e)
  let opened ←
    if isNew then create
    else
      let access : Access := { writable := true, truncating := !style.attributesOnly }
      match ← does (Act.openPath target access) with
      | .ok d => pure (.ok d)
      | .error .notFound => create
      | .error e =>
          if style.forces then
            match ← ask (Op.unlink target) with
            | .ok () =>
                if style.verbose then say ("removed " ++ quoteAlways target)
                create
            | .error .notFound => create
            | .error cause =>
                let _ ← refuseFor call ("cannot remove " ++ quoteAlways target) cause
                return none
          else pure (.error e)
  match opened with
  | .ok d => return some d
  | .error .busy =>
      let _ ← refuse call ("not writing through dangling symlink " ++ quoteAlways target)
      return none
  | .error e =>
      let _ ← refuseFor call ("cannot create regular file " ++ quoteAlways target) e
      return none

def keepAttributes (style : CopyStyle) (target : String) (status : Status) (isNew : Bool) :
    Op Unit := do
  if style.keepsTimes then let _ ← Op.setModified target status.modified false
  if status.kind = .link then return
  if style.keepsMode then let _ ← Op.setMode target (status.mode &&& Mode.all)
  else if style.dropsMode ∧ isNew then
    let base := if status.isDirectory then 0o777 else 0o666
    let _ ← Op.setMode target (base &&& Mode.complement (← Op.self).mask)

def copyContent (call : Call) (style : CopyStyle) (source target : String) (status : Status)
    (isNew : Bool) : Copying Bool := do
  match ← does (Act.openPath source { readable := true }) with
  | .error e => refuseFor call ("cannot open " ++ quoteAlways source ++ " for reading") e
  | .ok input =>
      match ← openTarget call style target isNew (status.mode &&& Mode.permissions) with
      | none =>
          ask (Op.close input)
          return false
      | some output =>
          let result ← if style.attributesOnly then pure (.ok ()) else does (pass input output)
          ask (Op.close input)
          ask (Op.close output)
          ask (keepAttributes style target status isNew)
          match result with
          | .ok () => return true
          | .error .isDirectory => refuseFor call ("error reading " ++ quoteAlways source) .isDirectory
          | .error e => refuseFor call ("error writing " ++ quoteAlways target) e

/-! ## One file -/

/-- Makes a link, in place of what is there if that may be replaced. -/
def replaceBy (target : String) (replaces : Bool) (make : Op (Except SystemError Unit)) :
    Op (Except SystemError Unit) := do
  match ← make with
  | .error .alreadyExists =>
      if !replaces then return .error .alreadyExists
      match ← Op.unlink target with
      | .ok () => make
      | .error e => return .error e
  | result => return result

def makeHardLink (call : Call) (style : CopyStyle) (source target : String) (replaces : Bool)
    (tells : Bool) : Copying Bool := do
  let follows := style.follows != .never
  match ← ask (replaceBy target replaces (Op.link source target follows)) with
  | .ok () =>
      if tells ∧ style.verbose then say (quoteAlways target ++ " => " ++ quoteAlways source)
      return true
  | .error e =>
      refuseFor call
        ("cannot create hard link " ++ quoteAlways target ++ " to " ++ quoteAlways source) e

/-- Makes a copy of something that is no directory. -/
def copyFile (call : Call) (style : CopyStyle) (source target : String) (status : Status)
    (isNew : Bool) : Copying Bool := do
  if style.symbolicLinks then
    if !(source.startsWith "/") ∧ target.toList.contains '/' ∧
        !(← ask (isSameName (joinPath (directoryOf target) "x") "./x")) then
      return ← refuse call (quoteName target ++
        ": can make relative symbolic links only in current directory")
    match ← ask (replaceBy target style.forces (Op.makeLink source target)) with
    | .ok () => return true
    | .error e =>
        return ← refuseFor call
          ("cannot create symbolic link " ++ quoteAlways target ++ " to " ++ quoteAlways source) e
  if style.hardLinks then
    return ← makeHardLink call style source target
      (style.forces || style.clobbering == .ask) false
  let make (what : String) (op : Op (Except SystemError Unit)) : Copying Bool := do
    match ← ask op with
    | .ok () =>
        ask (keepAttributes style target status isNew)
        return true
    | .error e => refuseFor call ("cannot create " ++ what ++ quoteAlways target) e
  match status.kind with
  | .link =>
      match ← ask (Op.readLink source) with
      | .error e => refuseFor call ("cannot read symbolic link " ++ quoteAlways source) e
      | .ok content =>
          make "symbolic link " (replaceBy target style.forces (Op.makeLink content target))
  | .queue =>
      if style.readsDevices then copyContent call style source target status isNew
      else make "fifo " (Op.makeQueue target (status.mode &&& Mode.permissions))
  | .characters | .socket =>
      if style.readsDevices then copyContent call style source target status isNew
      else
        match status.device with
        | some kind => make "special file " (Op.makeDevice kind target status.mode)
        | none => make "special file " (return .error .notPermitted)
  | _ => copyContent call style source target status isNew

/-- What is known of the place that a copy goes to. -/
inductive Reception where
  /-- There is nothing. -/
  | free
  | taken (status : Status)
  /-- It may be replaced, but is not to be looked at. -/
  | unknown
  deriving Inhabited

/-- What there is to be said about a file that is in the way: the copy is done with, or it can go
on, perhaps because the file has been moved away. -/
inductive Clearance where
  | finished (success : Bool)
  | clear (isNew : Bool) (backup : Option String)
  deriving Inhabited

/-- Sees to what is in the way of a copy. -/
def clearTheWay (call : Call) (style : CopyStyle) (source target : String) (status old : Status)
    (isOperand : Bool) : Copying Clearance := do
  let refused (message : String) : Copying Clearance := return .finished (← refuse call message)
  let (mayGo, isDone) ← if style.clobbering = .never then pure (true, false)
    else ask (sameFileVerdict style source target status old)
  if !mayGo then
    return ← refused (quoteAlways source ++ " and " ++ quoteAlways target ++ " are the same file")
  let isDirectory := status.isDirectory
  if style.updates ∧ !isDirectory ∧ status.modified ≤ old.modified then return .finished true
  if !isDirectory then
    if style.clobbering = .never then return .finished true
    if style.clobbering = .ask then
      if !(← does (mayOverwrite call target)) then return .finished true
  if isDone then return .finished true
  let s ← get
  if !old.isDirectory then
    if isDirectory then
      return ← refused ("cannot overwrite non-directory " ++ quoteAlways target ++
        " with directory " ++ quoteAlways source)
    if isOperand ∧ s.watches ∧ style.backups.kind ≠ .numbered then
      if ← ask (s.made.contains target old) then
        return ← refused ("will not overwrite just-created " ++ quoteAlways target ++ " with " ++
          quoteAlways source)
  else if !isDirectory then
    return ← refused ("cannot overwrite directory " ++ quoteAlways target ++
      " with non-directory")
  if style.backups.isOn ∧ !isDots (lastComponent source) ∧ !old.isDirectory then
    if style.backups.kind ≠ .numbered ∧
        lastComponent source = lastComponent target ++ style.backups.suffix then
      let kept ← ask (Op.status? (target ++ style.backups.suffix))
      if kept.any (isSameFile status) then
        return ← refused ("backing up " ++ quoteAlways target ++
          " might destroy source;  " ++ quoteAlways source ++ " not copied")
    match ← ask (style.backups.keep target) with
    | .ok name => return .clear true (some name)
    | .error .notFound => return .clear true none
    | .error e =>
        return .finished (← refuseFor call ("cannot backup " ++ quoteAlways target) e)
  let isPlain := status.isFile
  let goesFirst := style.removesFirst || (style.keepsLinks && 1 < old.links) ||
    (style.follows == .never && !isPlain)
  if !old.isDirectory ∧ goesFirst then
    match ← ask (Op.unlink target) with
    | .ok () | .error .notFound =>
        if style.verbose then say ("removed " ++ quoteAlways target)
        return .clear true none
    | .error e =>
        return .finished (← refuseFor call ("cannot remove " ++ quoteAlways target) e)
  return .clear false none

/-- What becomes of a node that has been copied before. -/
def repeatCopy (call : Call) (style : CopyStyle) (source target earlier : String)
    (status : Status) (isOperand : Bool) : Copying (Option Bool) := do
  if !status.isDirectory then
    return some (← makeHardLink call style earlier target true true)
  let s ← get
  if ← ask (isSameName source earlier) then
    modify fun s => { s with intoItself := true }
    return some (← refuse call ("cannot copy a directory, " ++ quoteAlways s.top.1 ++
      ", into itself, " ++ quoteAlways s.top.2))
  if ← ask (isSameName target earlier) then
    let _ ← refuse call
      ("warning: source directory " ++ quoteAlways s.top.1 ++ " specified more than once")
    return some true
  if style.follows = .always ∨ (isOperand ∧ style.follows = .operands) then return none
  return some (← refuse call ("will not create hard link " ++ quoteAlways target ++
    " to directory " ++ quoteAlways earlier))

/-- What there is at the place that a copy goes to. -/
def receptionOf (style : CopyStyle) (status : Status) (isOperand : Bool) (known : Reception)
    (target : String) : Op (Except SystemError Reception) := do
  let looksAtLinks := (!status.isFile &&
      (!style.readsDevices || status.isDirectory || status.kind == .link)) ||
    style.symbolicLinks || style.hardLinks || style.backups.isOn || style.removesFirst
  let isFree : Bool := match known with
    | .free => true
    | _ => false
  if isFree ∧ !(looksAtLinks ∧ isOperand) then return .ok .free
  match ← Op.statusOf target (!looksAtLinks) with
  | .ok old => return .ok (.taken old)
  | .error .notFound => return .ok .free
  | .error e => return if style.forces ∧ e = .tooManyLinks then .ok .unknown else .error e

/-- A link that has been made by the same call is not to be followed. -/
def leadsThroughLink (style : CopyStyle) (target : String) : Copying Bool := do
  let s ← get
  if !s.watches ∨ style.backups.isOn then return false
  match ← ask (Op.ownStatus? target) with
  | some own => if own.kind = .link then ask (s.made.contains target own) else return false
  | none => return false

/-- Under which name a node has been copied before, if that matters. -/
def earlierCopy? (style : CopyStyle) (status : Status) (isOperand : Bool) (target : String) :
    Copying (Option String) := do
  let remembers :=
    if status.isDirectory then style.recursive
    else style.keepsLinks && !style.hardLinks &&
      (1 < status.links || style.follows == .always || (isOperand && style.follows == .operands))
  if !remembers then return none
  let node := status.node.getD 0
  let earlier := (← get).copied.lookup node
  if earlier.isNone ∧ (isOperand ∨ !status.isDirectory) then
    modify fun s => { s with copied := (node, target) :: s.copied }
  return earlier

/-- Makes a copy of a directory, in which `copyInner` makes the copies of what is in it. -/
def copyDirectory (call : Call) (style : CopyStyle)
    (copyInner : Reception → String → String → Copying Bool) (source target : String)
    (status : Status) (isNew : Bool) : Copying Bool := do
  if isNew then
    match ← ask (Op.makeDirectory target (status.mode &&& 0o1777 ||| 0o700)) with
    | .error e => return ← refuseFor call ("cannot create directory " ++ quoteAlways target) e
    | .ok () => pure ()
    if !(← get).madeDirectory then
      if let some made ← ask (Op.status? target) then
        modify fun s => { s with
          madeDirectory := true, copied := (made.node.getD 0, target) :: s.copied }
    tell style source target none
  match ← ask (Op.namesIn source) with
  | .error e => refuseFor call ("cannot access " ++ quoteAlways source) e
  | .ok names =>
      let inner := if isNew then Reception.free else .unknown
      let success ← children inner names true
      if isNew ∧ !style.keepsMode then
        let mask := (← ask Op.self).mask
        let _ ← ask (Op.setMode target (status.mode &&& 0o1777 &&& Mode.complement mask))
      ask (keepAttributes style target status isNew)
      return success
where
  children (inner : Reception) : List String → Bool → Copying Bool
    | [], success => return success
    | name :: rest, success => do
        let done ← copyInner inner (joinPath source name) (joinPath target name)
        if (← get).intoItself then return false
        children inner rest (success && done)

/-- Copies a file or a directory.  `known` is what is known of the place that the copy goes to. -/
def copyEntry (call : Call) (style : CopyStyle) :
    Nat → List Nat → Bool → Reception → String → String → Copying Bool
  | 0, _, _, _, _, _ => return false
  | n + 1, ancestors, isOperand, known, source, target => do
      let follows := style.follows == .always || (isOperand && style.follows == .operands)
      match ← ask (Op.statusOf source follows) with
      | .error e => refuseFor call ("cannot stat " ++ quoteAlways source) e
      | .ok status =>
          if status.isDirectory ∧ !style.recursive then
            return ← refuse call
              ("-r not specified; omitting directory " ++ quoteAlways source)
          let s ← get
          if isOperand ∧ s.watches then
            let again ← ask (s.sources.contains source status)
            if !status.isDirectory ∧ !style.backups.isOn ∧ again then
              let _ ← refuse call
                ("warning: source file " ++ quoteAlways source ++ " specified more than once")
              return true
            set { s with sources := s.sources.add source status }
          match ← ask (receptionOf style status isOperand known target) with
          | .error e => refuseFor call ("cannot stat " ++ quoteAlways target) e
          | .ok reception =>
              let clearance ← match reception with
                | .free => pure (Clearance.clear true none)
                | .unknown => pure (.clear false none)
                | .taken old => clearTheWay call style source target status old isOperand
              match clearance with
              | .finished success => return success
              | .clear isNew backup =>
                  if isOperand then
                    if ← leadsThroughLink style target then
                      return ← refuse call ("will not copy " ++ quoteAlways source ++
                        " through just-created symlink " ++ quoteAlways target)
                  if !status.isDirectory then tell style source target backup
                  let again ← match ← earlierCopy? style status isOperand target with
                    | some earlier => repeatCopy call style source target earlier status isOperand
                    | none => pure none
                  if let some result := again then return result
                  if status.isDirectory then
                    let node := status.node.getD 0
                    if ancestors.contains node then
                      return ← refuse call
                        ("cannot copy cyclic symbolic link " ++ quoteAlways source)
                    return ← copyDirectory call style
                      (copyEntry call style n (node :: ancestors) false) source target status isNew
                  let success ← copyFile call style source target status isNew
                  if success ∧ isOperand then
                    if let some own ← ask (Op.ownStatus? target) then
                      modify fun s => { s with made := s.made.add target own }
                  return success

end Copying

/-! ## Operands -/

/-- Makes the directories above a path that are missing, as they are above the source. -/
def copyParents (call : Call) (style : CopyStyle) (directory source : String) : Copying Bool := do
  let above := (List.range source.length).filter fun i =>
    source.toList[i]? == some '/' && 0 < i && source.toList[i - 1]? != some '/'
  let rec go : List Nat → Copying Bool
    | [] => return true
    | i :: rest => do
        let part := String.ofList (source.toList.take i)
        let target := joinPath directory part
        match ← Copying.ask (Op.status? target) with
        | some status =>
            if status.isDirectory then go rest
            else Copying.refuse call (quoteAlways target ++ " exists but is not a directory")
        | none =>
            match ← Copying.ask (Op.statusOf part) with
            | .error e =>
                Copying.refuseFor call ("failed to get attributes of " ++ quoteAlways part) e
            | .ok status =>
                match ← Copying.ask (Op.makeDirectory target (status.mode &&& Mode.permissions)) with
                | .error e =>
                    Copying.refuseFor call ("cannot make directory " ++ quoteAlways target) e
                | .ok () =>
                    if style.verbose then Copying.say (part ++ " -> " ++ target)
                    go rest
  go above

def copyOperand (call : Call) (style : CopyStyle) (known : Copying.Reception)
    (source target : String) : Copying Bool := do
  modify fun s => { s with top := (source, target), madeDirectory := false, intoItself := false }
  Copying.copyEntry call style maxDepth [] true known source target

/-- What attributes a copy is to share with its source. -/
inductive Attribute where
  | mode
  | times
  | owner
  | links
  | context
  | extended
  | all
  deriving DecidableEq, Repr, Inhabited

def attributeWords : List (String × Attribute) := [
  ("mode", .mode), ("timestamps", .times), ("ownership", .owner), ("links", .links),
  ("context", .context), ("xattr", .extended), ("all", .all)]

def attributesIn (call : Call) (option value : String) : Act (List Attribute) :=
  (value.splitOn ",").mapM (choiceOf call 1 option attributeWords)

/-- The attributes that the options ask for, one option after the other. -/
def attributesOf (call : Call) (parsed : Parsed) : Act (List Attribute × Bool) :=
  parsed.options.foldlM (fun ((kept, drops) : List Attribute × Bool) (c, value) => do
    let common := [Attribute.mode, .times, .owner]
    match c with
    | 'p' => return (common ++ kept, drops)
    | 'a' => return (.links :: common ++ kept, drops)
    | 'd' => return (.links :: kept, drops)
    | '+' =>
        if value.isEmpty then return (common ++ kept, drops)
        let given ← attributesIn call "--preserve" value
        let more := given.flatMap fun a => if a = .all then .links :: common else [a]
        return (more ++ kept, drops)
    | '-' =>
        let given ← attributesIn call "--no-preserve" value
        let gone := given.flatMap fun a => if a = .all then .links :: common else [a]
        return (kept.filter fun a => !gone.contains a, drops || gone.contains .mode)
    | '%' =>
        let _ ← choiceOf call 1 "--sparse" [("never", 0), ("auto", 1), ("always", 2)] value
        return (kept, drops)
    | '*' =>
        if !value.isEmpty then
          let _ ← choiceOf call 1 "--reflink" [("auto", 0), ("always", 1), ("never", 2)] value
        return (kept, drops)
    | _ => return (kept, drops)) ([], false)

def followingOf (parsed : Parsed) (recursive hardLinks : Bool) : Following :=
  match parsed.last? "LPHda" with
  | some 'L' => .always
  | some 'H' => .operands
  | some _ => .never
  | none => if recursive ∧ !hardLinks then .never else .always

def cp : Utility := fun call => do
  let parsed ← ({
    flags := "rRafinpuvdLPHTlsxbZ", valued := "tS", valuedNames := "-%"
    named := [("recursive", 'r'), ("archive", 'a'), ("force", 'f'), ("interactive", 'i'),
      ("no-clobber", 'n'), ("update", 'u'), ("verbose", 'v'), ("preserve", '+'),
      ("no-preserve", '-'), ("dereference", 'L'), ("no-dereference", 'P'),
      ("no-target-directory", 'T'), ("target-directory", 't'), ("link", 'l'),
      ("symbolic-link", 's'), ("backup", 'B'), ("suffix", 'S'), ("one-file-system", 'x'),
      ("remove-destination", '!'), ("parents", '/'), ("path", '/'), ("copy-contents", 'c'),
      ("attributes-only", '='), ("strip-trailing-slashes", '\\'), ("sparse", '%'),
      ("reflink", '*')]
    optional := "+B*" } : OptionTable).parse call
  let backups ← backupsOf call parsed
  let (kept, drops) ← attributesOf call parsed
  if parsed.has 'n' ∧ clobberingOf parsed = .never ∧ backups.isOn then
    misuse call 1 "options --backup and --no-clobber are mutually exclusive"
  let recursive := parsed.has 'r' || parsed.has 'R' || parsed.has 'a'
  let clobbering := match parsed.last? "in" with
    | some 'i' => Clobbering.ask
    | some _ => .never
    | none => .unspecified
  let style : CopyStyle := {
    recursive := recursive
    follows := followingOf parsed recursive (parsed.has 'l')
    clobbering := clobbering
    forces := parsed.has 'f'
    removesFirst := parsed.has '!'
    hardLinks := parsed.has 'l'
    symbolicLinks := parsed.has 's'
    updates := parsed.has 'u' && clobbering != .never
    verbose := parsed.has 'v'
    readsDevices := !recursive || parsed.has 'c'
    attributesOnly := parsed.has '='
    parents := parsed.has '/'
    keepsMode := kept.contains .mode
    keepsTimes := kept.contains .times
    keepsLinks := kept.contains .links
    dropsMode := drops
    backups := backups }
  if style.hardLinks ∧ style.symbolicLinks then
    misuse call 1 "cannot make both hard and symbolic links"
  let destination ← destinationOf call parsed
  let strip (source : String) : String := if parsed.has '\\' then trimSlashes source else source
  match destination.directory with
  | some directory =>
      let all : Copying Bool := destination.sources.foldlM (fun success source => do
        let source := strip source
        let bare := trimSlashes source
        let name := if style.parents then bare else
          let last := lastComponent source
          if last = ".." then "." else if last = "/" then "" else last
        let target := if name.isEmpty then directory else
          joinPath directory (if style.parents ∧ bare.startsWith "/" then
            String.ofList (bare.toList.dropWhile (· == '/')) else name)
        let hasParents ← if style.parents then copyParents call style directory bare
          else pure true
        if !hasParents then return false
        let done ← copyOperand call style .unknown source target
        return success && done) true
      let (success, _) ← all.run { watches := 2 ≤ destination.sources.length }
      return if success then 0 else 1
  | none =>
      if style.parents then misuse call 1 "with --parents, the destination must be a directory"
      let source := strip (destination.sources.headD "")
      let target := destination.target
      let known := if destination.isNew then Copying.Reception.free else .unknown
      let sameName := source == target
      let status ← Op.status? source
      let isPlain := sameName && status.any Status.isFile
      if style.forces ∧ backups.isOn ∧ sameName ∧ isPlain then
        let name ← backups.nameFor target
        let (success, _) ← (copyOperand call { style with backups := {} } .unknown source name).run {}
        return if success then 0 else 1
      let (success, _) ← (copyOperand call style known source target).run {}
      return if success then 0 else 1

end CompilerDriver.Utility
