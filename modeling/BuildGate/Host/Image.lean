import BuildGate.Fs

namespace BuildGate.Host

def elfMagic : List UInt8 := [0x7f, 0x45, 0x4c, 0x46]

def programBytes (name : String) : List UInt8 := elfMagic ++ name.toUTF8.toList

def programOf (bytes : List UInt8) : Option String :=
  if elfMagic.isPrefixOf bytes then
    some (String.fromUTF8? ⟨(bytes.drop elfMagic.length).toArray⟩ |>.getD "")
  else none

def programs : List String :=
  ["[", "cat", "dash", "echo", "env", "false", "head", "mkdir", "printf", "pwd", "sleep",
   "sort", "test", "tr", "true", "wc"]

def imageDirs : List (List String) :=
  [["dev"], ["etc"], ["home"], ["root"], ["tmp"], ["usr"], ["usr", "bin"], ["usr", "lib"],
   ["usr", "local"], ["usr", "local", "bin"], ["usr", "local", "sbin"], ["usr", "sbin"],
   ["var"]]

def image : Fs.Tree :=
  { entries :=
      imageDirs.map (fun d => (d, Fs.Entry.dir)) ++
      [(["bin"], .link "usr/bin"), (["sbin"], .link "usr/sbin"), (["lib"], .link "usr/lib"),
       (["dev", "null"], .file [] 0o666), (["dev", "zero"], .file [] 0o666)] ++
      programs.map (fun p => (["usr", "bin", p], Fs.Entry.file (programBytes p) 0o755)) ++
      [(["usr", "bin", "sh"], .link "dash")] }

def accounts : List (String × String) :=
  [("root", "/root"), ("daemon", "/usr/sbin"), ("bin", "/bin"), ("sys", "/dev"),
   ("sync", "/bin"), ("games", "/usr/games"), ("man", "/var/cache/man"),
   ("lp", "/var/spool/lpd"), ("mail", "/var/mail"), ("news", "/var/spool/news"),
   ("uucp", "/var/spool/uucp"), ("proxy", "/bin"), ("www-data", "/var/www"),
   ("backup", "/var/backups"), ("list", "/var/list"), ("irc", "/run/ircd"),
   ("_apt", "/nonexistent"), ("nobody", "/nonexistent")]

def isZeroDevice (cs : List String) : Bool := cs == ["dev", "zero"]

def isNullDevice (cs : List String) : Bool := cs == ["dev", "null"]

end BuildGate.Host
