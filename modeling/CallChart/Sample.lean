namespace CallChart.Sample

def entry : String := "app"

def lines : List String :=
  ["\x7b\n",
    "  \"packages\": [\n",
    "    \x7b \"path\": \"app\", \"name\": \"main\" \x7d,\n",
    "    \x7b \"path\": \"lib\", \"name\": \"lib\", \"std\": false \x7d,\n",
    "    \x7b \"path\": \"fmt\", \"name\": \"fmt\" \x7d\n",
    "  ],\n",
    "  \"functions\": [\n",
    "    \x7b \"name\": \"app.main\", \"package\": \"app\" \x7d,\n",
    "    \x7b \"name\": \"lib.Do\", \"package\": \"lib\" \x7d,\n",
    "    \x7b \"name\": \"lib.helper\", \"package\": \"lib\" \x7d,\n",
    "    \x7b \"name\": \"fmt.Println\", \"package\": \"fmt\" \x7d\n",
    "  ],\n",
    "  \"calls\": [\n",
    "    \x7b \"caller\": \"app.main\", \"callee\": \"lib.Do\" \x7d,\n",
    "    \x7b \"caller\": \"lib.Do\", \"callee\": \"lib.helper\" \x7d,\n",
    "    \x7b \"caller\": \"lib.helper\", \"callee\": \"fmt.Println\" \x7d\n",
    "  ]\n",
    "\x7d"]

/-- A small call graph to try things with: `app` calls into `lib`, which prints through `fmt`. -/
def text : String :=
  String.join lines

end CallChart.Sample
