/-!
The name of the program and its version, as it gives them to an editor and on the command line.
-/

namespace HurlAssist.Program

def name : String := "hurl-ls"

def version : String := "0.1.0"

end HurlAssist.Program
