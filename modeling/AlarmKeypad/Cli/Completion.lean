import AlarmKeypad.Cli.Help
/-!
Scripts that complete the command line of the keypad in a shell.

Every script offers the same words: at each place its arguments and its subcommands.
-/

namespace AlarmKeypad.Cli

namespace Place

/-- The words that may follow at a place. -/
def offers (p : Place) : List String :=
  p.arguments.flatMap Argument.forms ++ (p.positional?.map Argument.choices).getD [] ++
    p.subcommands.map Place.name ++ (if p.hasSubcommands then ["help"] else [])

/-- The words that lead to a place, between marks. -/
def key (mark : String) (p : Place) : String := String.intercalate mark p.words

/-- The places with the words that lead from one to the next. -/
def edges : List (Place × Place) := all.flatMap fun p => p.subcommands.map fun q => (p, q)

end Place

namespace Shell

def lines (ls : List String) : String := String.join (ls.map (· ++ "\n"))

def spaced (ws : List String) : String := String.intercalate " " ws

def bashScript : String :=
  lines (
    ["_ad2kp() \x7b", "    local i cur prev opts cmd", "    COMPREPLY=()",
      "    cur=\"$\x7bCOMP_WORDS[COMP_CWORD]\x7d\"", "    prev=\"$3\"", "    cmd=\"\"",
      "    opts=\"\"", "", "    for i in \"$\x7bCOMP_WORDS[@]:0:COMP_CWORD\x7d\"", "    do",
      "        case \"$\x7bcmd\x7d,$\x7bi\x7d\" in", "            \",$1\")",
      "                cmd=\"ad2kp\"", "                ;;"] ++
    Place.edges.flatMap (fun (p, q) =>
      ["            " ++ p.key "__" ++ "," ++ q.name ++ ")",
        "                cmd=\"" ++ q.key "__" ++ "\"", "                ;;"]) ++
    ["            *)", "                ;;", "        esac", "    done", "",
      "    case \"$\x7bcmd\x7d\" in"] ++
    Place.all.flatMap (fun p =>
      ["        " ++ p.key "__" ++ ")", "            opts=\"" ++ spaced p.offers ++ "\"",
        "            COMPREPLY=( $(compgen -W \"$\x7bopts\x7d\" -- \"$\x7bcur\x7d\") )",
        "            return 0", "            ;;"]) ++
    ["    esac", "\x7d", "",
      "if [[ \"$\x7bBASH_VERSINFO[0]\x7d\" -eq 4 && \"$\x7bBASH_VERSINFO[1]\x7d\" -ge 4 || \"$\x7bBASH_VERSINFO[0]\x7d\" -gt 4 ]]; then",
      "    complete -F _ad2kp -o nosort -o bashdefault -o default ad2kp", "else",
      "    complete -F _ad2kp -o bashdefault -o default ad2kp", "fi"])

/-- A text between single quotes, for shells that double them. -/
def quoted (s : String) : String :=
  "'" ++ String.ofList (s.toList.flatMap fun c => if c = '\x27' then [c, c] else [c]) ++ "'"

def zshScript : String :=
  lines (
    ["#compdef ad2kp", "", "autoload -U is-at-least", "", "_ad2kp() \x7b", "    local cmd=ad2kp i",
      "    for i in $words[2,CURRENT-1]; do", "        case \"$cmd,$i\" in"] ++
    Place.edges.map (fun (p, q) =>
      "            " ++ p.key "-" ++ "," ++ q.name ++ ") cmd=" ++ q.key "-" ++ " ;;") ++
    ["        esac", "    done", "    case $cmd in"] ++
    Place.all.map (fun p =>
      "        " ++ p.key "-" ++ ") compadd -- " ++ spaced p.offers ++ " ;;") ++
    ["    esac", "\x7d", "", "if [ \"$funcstack[1]\" = \"_ad2kp\" ]; then", "    _ad2kp \"$@\"",
      "else", "    compdef _ad2kp ad2kp", "fi"])

def fishScript : String :=
  let condition (p : Place) : String :=
    match p.words with
    | [_] => "__fish_use_subcommand"
    | ws => String.intercalate "; and " (ws.tail.map ("__fish_seen_subcommand_from " ++ ·))
  lines (Place.all.flatMap fun p =>
    (p.arguments.map fun a =>
      "complete -c ad2kp -n \"" ++ condition p ++ "\"" ++
        ((a.short?.map fun c => " -s " ++ String.singleton c).getD "") ++
        ((a.long?.map (" -l " ++ ·)).getD "") ++ " -d " ++ quoted (p.summaryOf a) ++
        (if a.takesValue then " -r" else "")) ++
    (p.subcommands.map fun q =>
      "complete -c ad2kp -n \"" ++ condition p ++ "\" -f -a \"" ++ q.name ++ "\" -d " ++
        quoted q.summary))

def powershellScript : String :=
  lines (
    ["using namespace System.Management.Automation",
      "using namespace System.Management.Automation.Language",
      "", "Register-ArgumentCompleter -Native -CommandName 'ad2kp' -ScriptBlock \x7b",
      "    param($wordToComplete, $commandAst, $cursorPosition)", "",
      "    $command = ($commandAst.CommandElements | Where-Object \x7b -not \"$_\".StartsWith('-') \x7d) -join ';'",
      "    $completions = @(switch ($command) \x7b"] ++
    Place.all.flatMap (fun p =>
      ["        " ++ quoted (p.key ";") ++ " \x7b"] ++
      p.offers.map (fun w => "            [CompletionResult]::new(" ++ quoted w ++ ")") ++
      ["            break", "        \x7d"]) ++
    ["    \x7d)", "",
      "    $completions.Where\x7b $_.CompletionText -like \"$wordToComplete*\" \x7d | Sort-Object -Property ListItemText",
      "\x7d"])

def elvishScript : String :=
  lines (
    ["use builtin;", "use str;", "", "set edit:completion:arg-completer[ad2kp] = \x7b|@words|",
      "    var command = 'ad2kp'", "    for word $words[1..-1] \x7b",
      "        if (str:has-prefix $word '-') \x7b", "            break", "        \x7d",
      "        set command = $command';'$word", "    \x7d", "    var completions = ["] ++
    Place.all.flatMap (fun p =>
      ["        &" ++ quoted (p.key ";") ++ "= \x7b"] ++
      p.offers.map (fun w => "            put " ++ quoted w) ++ ["        \x7d"]) ++
    ["    ]", "    $completions[$command]", "\x7d"])

/-- The script for a shell. -/
def script : Shell → String
  | bash => bashScript
  | elvish => elvishScript
  | fish => fishScript
  | powershell => powershellScript
  | zsh => zshScript

end Shell
end AlarmKeypad.Cli
