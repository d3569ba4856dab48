/-!
# Fixed texts of the shell

## Main definitions

* `helpText` — the list of commands.
* `productName`, `versionText` — what the shell calls itself.
-/

namespace DogRegistry

/-- The name the shell shows. -/
def productName : String := "KennelDB CLI"

/-- The version the shell shows. -/
def versionText : String := "0.1.0"

/-- The list of commands, with a line feed behind every line. -/
def helpText : String :=
  String.join <| List.map (· ++ "\n")
    ["KennelDB CLI Commands",
     "=====================",
     "",
     "General:",
     "  \\q, \\quit             Exit the CLI",
     "  \\?, \\help             Show this help",
     "",
     "Tables:",
     "  \\dt, \\tables          List tables",
     "  \\d TABLE              Show a table's rows",
     "  \\reset                Discard changes and reload the seed data",
     "  \\save                 Write the snapshot file",
     "  \\export TABLE PATH    Write a table's text to a file",
     "",
     "Index:",
     "  \\s, \\search BREED     Search dogs by breed, showing each step",
     "  \\tree                 Show the breed index structure",
     "",
     "Display:",
     "  \\t, \\timing           Toggle timing display",
     "  \\f FORMAT             Set output format (table, json, csv)",
     "",
     "Files:",
     "  \\i FILE               Execute statements from file",
     "",
     "Statements:",
     "  INSERT INTO owners VALUES (4, 'Ana Ruiz');",
     "  INSERT INTO dogs VALUES ('Labrador', 'Buddy2', '1'), ('Beagle', 'Kira', '2');",
     "",
     "Input ending with a semicolon is executed; otherwise input continues on the next line."]

end DogRegistry
