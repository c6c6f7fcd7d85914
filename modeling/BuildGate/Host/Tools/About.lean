import BuildGate.Host.Tools

namespace BuildGate.Host

def helpOptionLines : String :=
  "      --help        display this help and exit\n" ++
  "      --version     output version information and exit\n"

def builtinNote (what : String) : String :=
  "\nNOTE: your shell may have its own version of " ++ what ++ ", which usually supersedes\n" ++
  "the version described here.  Please refer to your shell's documentation\n" ++
  "for details about the options it supports.\n"

def authorsOf (utf8 : Bool) (program : String) : List String :=
  match program with
  | "cat" => [if utf8 then "Torbjörn Granlund" else "Torbjorn Granlund", "Richard M. Stallman"]
  | "env" => ["Richard Mlynarik", "David MacKenzie", "Assaf Gordon"]
  | "echo" => ["Brian Fox", "Chet Ramey"]
  | "head" => ["David MacKenzie", "Jim Meyering"]
  | "wc" => ["Paul Rubin", "David MacKenzie"]
  | "sort" => ["Mike Haertel", "Paul Eggert"]
  | "sleep" => ["Jim Meyering", "Paul Eggert"]
  | "mkdir" | "printf" => ["David MacKenzie"]
  | "[" | "test" => ["Kevin Braunsdorf", "Matthew Bradburn"]
  | _ => ["Jim Meyering"]

def writtenBy (names : List String) : String :=
  match names with
  | [] => ""
  | [a] => "Written by " ++ a ++ ".\n"
  | [a, b] => "Written by " ++ a ++ " and " ++ b ++ ".\n"
  | _ => "Written by " ++ ", ".intercalate names.dropLast ++ ", and " ++
      names.getLastD "" ++ ".\n"

def versionText (utf8 : Bool) (program : String) : String :=
  program ++ " (GNU coreutils) 9.1\n" ++
  "Copyright (C) 2022 Free Software Foundation, Inc.\n" ++
  "License GPLv3+: GNU GPL version 3 or later <https://gnu.org/licenses/gpl.html>.\n" ++
  "This is free software: you are free to change and redistribute it.\n" ++
  "There is NO WARRANTY, to the extent permitted by law.\n\n" ++
  writtenBy (authorsOf utf8 program)

def helpFooter (program : String) : String :=
  let page := if program == "[" then "test" else program
  "\nGNU coreutils online help: <https://www.gnu.org/software/coreutils/>\n" ++
  "Report any translation bugs to <https://translationproject.org/team/>\n" ++
  "Full documentation <https://www.gnu.org/software/coreutils/" ++ page ++ ">\n" ++
  "or available locally via: info '(coreutils) " ++ page ++ " invocation'\n"

def usageText (program name : String) : String :=
  match program with
  | "true" =>
    "Usage: " ++
    name ++
    " [ignored command line arguments]\n" ++
    "  or:  " ++
    name ++
    " OPTION\nExit with a status code indicating success.\n\n" ++
    helpOptionLines ++
    builtinNote "true"
  | "false" =>
    "Usage: " ++
    name ++
    " [ignored command line arguments]\n" ++
    "  or:  " ++
    name ++
    " OPTION\nExit with a status code indicating failure.\n\n" ++
    helpOptionLines ++
    builtinNote "false"
  | "echo" =>
    "Usage: " ++
    name ++
    " [SHORT-OPTION]... [STRING]...\n" ++
    "  or:  " ++
    name ++
    " LONG-OPTION\nEcho the STRING(s) to standard output.\n\n  -n             do not output the trailing newline\n  -e             enable interpretation of backslash escapes\n  -E             disable interpretation of backslash escapes (default)\n" ++
    helpOptionLines ++
    "\nIf -e is in effect, the following sequences are recognized:\n\n  \\\\      backslash\n  \\a      alert (BEL)\n  \\b      backspace\n  \\c      produce no further output\n  \\e      escape\n  \\f      form feed\n  \\n      new line\n  \\r      carriage return\n  \\t      horizontal tab\n  \\v      vertical tab\n  \\0NNN   byte with octal value NNN (1 to 3 digits)\n  \\xHH    byte with hexadecimal value HH (1 to 2 digits)\n" ++
    builtinNote "echo"
  | "cat" =>
    "Usage: " ++
    name ++
    " [OPTION]... [FILE]...\nConcatenate FILE(s) to standard output.\n\nWith no FILE, or when FILE is -, read standard input.\n\n  -A, --show-all           equivalent to -vET\n  -b, --number-nonblank    number nonempty output lines, overrides -n\n  -e                       equivalent to -vE\n  -E, --show-ends          display $ at end of each line\n  -n, --number             number all output lines\n  -s, --squeeze-blank      suppress repeated empty output lines\n  -t                       equivalent to -vT\n  -T, --show-tabs          display TAB characters as ^I\n  -u                       (ignored)\n  -v, --show-nonprinting   use ^ and M- notation, except for LFD and TAB\n" ++
    helpOptionLines ++
    "\nExamples:\n" ++
    "  " ++
    name ++
    " f - g  Output f's contents, then standard input, then g's contents.\n" ++
    "  " ++
    name ++
    "        Copy standard input to standard output.\n"
  | "head" =>
    "Usage: " ++
    name ++
    " [OPTION]... [FILE]...\nPrint the first 10 lines of each FILE to standard output.\nWith more than one FILE, precede each with a header giving the file name.\n\nWith no FILE, or when FILE is -, read standard input.\n\nMandatory arguments to long options are mandatory for short options too.\n  -c, --bytes=[-]NUM       print the first NUM bytes of each file;\n                             with the leading '-', print all but the last\n                             NUM bytes of each file\n  -n, --lines=[-]NUM       print the first NUM lines instead of the first 10;\n                             with the leading '-', print all but the last\n                             NUM lines of each file\n  -q, --quiet, --silent    never print headers giving file names\n  -v, --verbose            always print headers giving file names\n  -z, --zero-terminated    line delimiter is NUL, not newline\n" ++
    helpOptionLines ++
    "\nNUM may have a multiplier suffix:\nb 512, kB 1000, K 1024, MB 1000*1000, M 1024*1024,\nGB 1000*1000*1000, G 1024*1024*1024, and so on for T, P, E, Z, Y, R, Q.\nBinary prefixes can be used, too: KiB=K, MiB=M, and so on.\n"
  | "wc" =>
    "Usage: " ++
    name ++
    " [OPTION]... [FILE]...\n" ++
    "  or:  " ++
    name ++
    " [OPTION]... --files0-from=F\nPrint newline, word, and byte counts for each FILE, and a total line if\nmore than one FILE is specified.  A word is a non-zero-length sequence of\nprintable characters delimited by white space.\n\nWith no FILE, or when FILE is -, read standard input.\n\nThe options below may be used to select which counts are printed, always in\nthe following order: newline, word, character, byte, maximum line length.\n  -c, --bytes            print the byte counts\n  -m, --chars            print the character counts\n  -l, --lines            print the newline counts\n      --files0-from=F    read input from the files specified by\n                           NUL-terminated names in file F;\n                           If F is - then read names from standard input\n  -L, --max-line-length  print the maximum display width\n  -w, --words            print the word counts\n" ++
    helpOptionLines
  | "tr" =>
    "Usage: " ++
    name ++
    " [OPTION]... STRING1 [STRING2]\nTranslate, squeeze, and/or delete characters from standard input,\nwriting to standard output.  STRING1 and STRING2 specify arrays of\ncharacters ARRAY1 and ARRAY2 that control the action.\n\n  -c, -C, --complement    use the complement of ARRAY1\n  -d, --delete            delete characters in ARRAY1, do not translate\n  -s, --squeeze-repeats   replace each sequence of a repeated character\n                            that is listed in the last specified ARRAY,\n                            with a single occurrence of that character\n  -t, --truncate-set1     first truncate ARRAY1 to length of ARRAY2\n" ++
    helpOptionLines ++
    "\nARRAYs are specified as strings of characters.  Most represent themselves.\nInterpreted sequences are:\n\n  \\NNN            character with octal value NNN (1 to 3 octal digits)\n  \\\\              backslash\n  \\a              audible BEL\n  \\b              backspace\n  \\f              form feed\n  \\n              new line\n  \\r              return\n  \\t              horizontal tab\n  \\v              vertical tab\n  CHAR1-CHAR2     all characters from CHAR1 to CHAR2 in ascending order\n  [CHAR*]         in ARRAY2, copies of CHAR until length of ARRAY1\n  [CHAR*REPEAT]   REPEAT copies of CHAR, REPEAT octal if starting with 0\n  [:alnum:]       all letters and digits\n  [:alpha:]       all letters\n  [:blank:]       all horizontal whitespace\n  [:cntrl:]       all control characters\n  [:digit:]       all digits\n  [:graph:]       all printable characters, not including space\n  [:lower:]       all lower case letters\n  [:print:]       all printable characters, including space\n  [:punct:]       all punctuation characters\n  [:space:]       all horizontal or vertical whitespace\n  [:upper:]       all upper case letters\n  [:xdigit:]      all hexadecimal digits\n  [=CHAR=]        all characters which are equivalent to CHAR\n\nTranslation occurs if -d is not given and both STRING1 and STRING2 appear.\n-t may be used only when translating.  ARRAY2 is extended to length of\nARRAY1 by repeating its last character as necessary.  Excess characters\nof ARRAY2 are ignored.  Character classes expand in unspecified order;\nwhile translating, [:lower:] and [:upper:] may be used in pairs to\nspecify case conversion.  Squeezing occurs after translation or deletion.\n"
  | "sort" =>
    "Usage: " ++
    name ++
    " [OPTION]... [FILE]...\n" ++
    "  or:  " ++
    name ++
    " [OPTION]... --files0-from=F\nWrite sorted concatenation of all FILE(s) to standard output.\n\nWith no FILE, or when FILE is -, read standard input.\n\nMandatory arguments to long options are mandatory for short options too.\nOrdering options:\n\n  -b, --ignore-leading-blanks  ignore leading blanks\n  -d, --dictionary-order      consider only blanks and alphanumeric characters\n  -f, --ignore-case           fold lower case to upper case characters\n  -g, --general-numeric-sort  compare according to general numerical value\n  -i, --ignore-nonprinting    consider only printable characters\n  -M, --month-sort            compare (unknown) < 'JAN' < ... < 'DEC'\n  -h, --human-numeric-sort    compare human readable numbers (e.g., 2K 1G)\n  -n, --numeric-sort          compare according to string numerical value\n  -R, --random-sort           shuffle, but group identical keys.  See shuf(1)\n      --random-source=FILE    get random bytes from FILE\n  -r, --reverse               reverse the result of comparisons\n      --sort=WORD             sort according to WORD:\n                                general-numeric -g, human-numeric -h, month -M,\n                                numeric -n, random -R, version -V\n  -V, --version-sort          natural sort of (version) numbers within text\n\nOther options:\n\n      --batch-size=NMERGE   merge at most NMERGE inputs at once;\n                              for more use temp files\n  -c, --check, --check=diagnose-first  check for sorted input; do not sort\n  -C, --check=quiet, --check=silent  like -c, but do not report first bad line\n      --compress-program=PROG  compress temporaries with PROG;\n                              decompress them with PROG -d\n      --debug               annotate the part of the line used to sort,\n                              and warn about questionable usage to stderr\n      --files0-from=F       read input from the files specified by\n                            NUL-terminated names in file F;\n                            If F is - then read names from standard input\n  -k, --key=KEYDEF          sort via a key; KEYDEF gives location and type\n  -m, --merge               merge already sorted files; do not sort\n  -o, --output=FILE         write result to FILE instead of standard output\n  -s, --stable              stabilize sort by disabling last-resort comparison\n  -S, --buffer-size=SIZE    use SIZE for main memory buffer\n  -t, --field-separator=SEP  use SEP instead of non-blank to blank transition\n  -T, --temporary-directory=DIR  use DIR for temporaries, not $TMPDIR or /tmp;\n                              multiple options specify multiple directories\n      --parallel=N          change the number of sorts run concurrently to N\n  -u, --unique              with -c, check for strict ordering;\n                              without -c, output only the first of an equal run\n  -z, --zero-terminated     line delimiter is NUL, not newline\n" ++
    helpOptionLines ++
    "\nKEYDEF is F[.C][OPTS][,F[.C][OPTS]] for start and stop position, where F is a\nfield number and C a character position in the field; both are origin 1, and\nthe stop position defaults to the line's end.  If neither -t nor -b is in\neffect, characters in a field are counted from the beginning of the preceding\nwhitespace.  OPTS is one or more single-letter ordering options [bdfgiMhnRrV],\nwhich override global ordering options for that key.  If no key is given, use\nthe entire line as the key.  Use --debug to diagnose incorrect key usage.\n\nSIZE may be followed by the following multiplicative suffixes:\n% 1% of memory, b 1, K 1024 (default), and so on for M, G, T, P, E, Z, Y, R, Q.\n\n*** WARNING ***\nThe locale specified by the environment affects sort order.\nSet LC_ALL=C to get the traditional sort order that uses\nnative byte values.\n"
  | "env" =>
    "Usage: " ++
    name ++
    " [OPTION]... [-] [NAME=VALUE]... [COMMAND [ARG]...]\nSet each NAME to VALUE in the environment and run COMMAND.\n\nMandatory arguments to long options are mandatory for short options too.\n  -i, --ignore-environment  start with an empty environment\n  -0, --null           end each output line with NUL, not newline\n  -u, --unset=NAME     remove variable from the environment\n  -C, --chdir=DIR      change working directory to DIR\n  -S, --split-string=S  process and split S into separate arguments;\n                        used to pass multiple arguments on shebang lines\n      --block-signal[=SIG]    block delivery of SIG signal(s) to COMMAND\n      --default-signal[=SIG]  reset handling of SIG signal(s) to the default\n      --ignore-signal[=SIG]   set handling of SIG signal(s) to do nothing\n      --list-signal-handling  list non default signal handling to stderr\n  -v, --debug          print verbose information for each processing step\n" ++
    helpOptionLines ++
    "\nA mere - implies -i.  If no COMMAND, print the resulting environment.\n\nSIG may be a signal name like 'PIPE', or a signal number like '13'.\nWithout SIG, all known signals are included.  Multiple signals can be\ncomma-separated.\n"
  | "mkdir" =>
    "Usage: " ++
    name ++
    " [OPTION]... DIRECTORY...\nCreate the DIRECTORY(ies), if they do not already exist.\n\nMandatory arguments to long options are mandatory for short options too.\n  -m, --mode=MODE   set file mode (as in chmod), not a=rwx - umask\n  -p, --parents     no error if existing, make parent directories as needed,\n                    with their file modes unaffected by any -m option.\n  -v, --verbose     print a message for each created directory\n  -Z                   set SELinux security context of each created directory\n                         to the default type\n      --context[=CTX]  like -Z, or if CTX is specified then set the SELinux\n                         or SMACK security context to CTX\n" ++
    helpOptionLines
  | "pwd" =>
    "Usage: " ++
    name ++
    " [OPTION]...\nPrint the full filename of the current working directory.\n\n  -L, --logical   use PWD from environment, even if it contains symlinks\n  -P, --physical  avoid all symlinks\n" ++
    helpOptionLines ++
    "\nIf no option is specified, -P is assumed.\n" ++
    builtinNote "pwd"
  | "sleep" =>
    "Usage: " ++
    name ++
    " NUMBER[SUFFIX]...\n" ++
    "  or:  " ++
    name ++
    " OPTION\nPause for NUMBER seconds.  SUFFIX may be 's' for seconds (the default),\n'm' for minutes, 'h' for hours or 'd' for days.  NUMBER need not be an\ninteger.  Given two or more arguments, pause for the amount of time\nspecified by the sum of their values.\n\n" ++
    helpOptionLines
  | "printf" =>
    "Usage: " ++
    name ++
    " FORMAT [ARGUMENT]...\n" ++
    "  or:  " ++
    name ++
    " OPTION\nPrint ARGUMENT(s) according to FORMAT, or execute according to OPTION:\n\n" ++
    helpOptionLines ++
    "\nFORMAT controls the output as in C printf.  Interpreted sequences are:\n\n  \\\"      double quote\n  \\\\      backslash\n  \\a      alert (BEL)\n  \\b      backspace\n  \\c      produce no further output\n  \\e      escape\n  \\f      form feed\n  \\n      new line\n  \\r      carriage return\n  \\t      horizontal tab\n  \\v      vertical tab\n  \\NNN    byte with octal value NNN (1 to 3 digits)\n  \\xHH    byte with hexadecimal value HH (1 to 2 digits)\n  \\uHHHH  Unicode (ISO/IEC 10646) character with hex value HHHH (4 digits)\n  \\UHHHHHHHH  Unicode character with hex value HHHHHHHH (8 digits)\n  %%      a single %\n  %b      ARGUMENT as a string with '\\' escapes interpreted,\n          except that octal escapes are of the form \\0 or \\0NNN\n  %q      ARGUMENT is printed in a format that can be reused as shell input,\n          escaping non-printable characters with the proposed POSIX $'' syntax.\n\nand all C format specifications ending with one of diouxXfeEgGcs, with\nARGUMENTs converted to proper type first.  Variable widths are handled.\n" ++
    builtinNote "printf"
  | "[" | "test" =>
    "Usage: test EXPRESSION\n  or:  test\n  or:  [ EXPRESSION ]\n  or:  [ ]\n  or:  [ OPTION\nExit with the status determined by EXPRESSION.\n\n" ++
    helpOptionLines ++
    "\nAn omitted EXPRESSION defaults to false.  Otherwise,\nEXPRESSION is true or false and sets exit status.  It is one of:\n\n  ( EXPRESSION )               EXPRESSION is true\n  ! EXPRESSION                 EXPRESSION is false\n  EXPRESSION1 -a EXPRESSION2   both EXPRESSION1 and EXPRESSION2 are true\n  EXPRESSION1 -o EXPRESSION2   either EXPRESSION1 or EXPRESSION2 is true\n\n  -n STRING            the length of STRING is nonzero\n  STRING               equivalent to -n STRING\n  -z STRING            the length of STRING is zero\n  STRING1 = STRING2    the strings are equal\n  STRING1 != STRING2   the strings are not equal\n\n  INTEGER1 -eq INTEGER2   INTEGER1 is equal to INTEGER2\n  INTEGER1 -ge INTEGER2   INTEGER1 is greater than or equal to INTEGER2\n  INTEGER1 -gt INTEGER2   INTEGER1 is greater than INTEGER2\n  INTEGER1 -le INTEGER2   INTEGER1 is less than or equal to INTEGER2\n  INTEGER1 -lt INTEGER2   INTEGER1 is less than INTEGER2\n  INTEGER1 -ne INTEGER2   INTEGER1 is not equal to INTEGER2\n\n  FILE1 -ef FILE2   FILE1 and FILE2 have the same device and inode numbers\n  FILE1 -nt FILE2   FILE1 is newer (modification date) than FILE2\n  FILE1 -ot FILE2   FILE1 is older than FILE2\n\n  -b FILE     FILE exists and is block special\n  -c FILE     FILE exists and is character special\n  -d FILE     FILE exists and is a directory\n  -e FILE     FILE exists\n  -f FILE     FILE exists and is a regular file\n  -g FILE     FILE exists and is set-group-ID\n  -G FILE     FILE exists and is owned by the effective group ID\n  -h FILE     FILE exists and is a symbolic link (same as -L)\n  -k FILE     FILE exists and has its sticky bit set\n  -L FILE     FILE exists and is a symbolic link (same as -h)\n  -N FILE     FILE exists and has been modified since it was last read\n  -O FILE     FILE exists and is owned by the effective user ID\n  -p FILE     FILE exists and is a named pipe\n  -r FILE     FILE exists and the user has read access\n  -s FILE     FILE exists and has a size greater than zero\n  -S FILE     FILE exists and is a socket\n  -t FD       file descriptor FD is opened on a terminal\n  -u FILE     FILE exists and its set-user-ID bit is set\n  -w FILE     FILE exists and the user has write access\n  -x FILE     FILE exists and the user has execute (or search) access\n\nExcept for -h and -L, all FILE-related tests dereference symbolic links.\nBeware that parentheses need to be escaped (e.g., by backslashes) for shells.\nINTEGER may also be -l STRING, which evaluates to the length of STRING.\n\nNOTE: Binary -a and -o are inherently ambiguous.  Use 'test EXPR1 && test\nEXPR2' or 'test EXPR1 || test EXPR2' instead.\n\nNOTE: [ honors the --help and --version options, but test does not.\ntest treats each of those as it treats any other nonempty STRING.\n" ++
    builtinNote "test and/or ["
  | _ => ""

def helpText (program name : String) : String := usageText program name ++ helpFooter program

def aboutRun (c : ToolCall) (program : String) (which : Char) (status : Nat := 0) : ToolRun :=
  { writes := [.out (textBytes (if which == 'h' then helpText program c.name
      else versionText (utf8Locale c.env) program))],
    status := .exited status }

end BuildGate.Host
