namespace NoteSchema.Text.CharName

/-- Greek, Cyrillic and Armenian letters, and those of the Latin script with the signs beside them. -/
def european : String :=
"20 /SPACE/EXCLAMATION MARK/QUOTATION MARK/NUMBER SIGN/DOLLAR SIGN/PERCENT SIGN/AMPERSAND/APOSTROPHE
28 /LEFT PARENTHESIS/RIGHT PARENTHESIS/ASTERISK/PLUS SIGN/COMMA/HYPHEN-MINUS/FULL STOP/SOLIDUS
30 DIGIT /ZERO/ONE/TWO/THREE/FOUR/FIVE/SIX/SEVEN/EIGHT/NINE
3A /COLON/SEMICOLON/LESS-THAN SIGN/EQUALS SIGN/GREATER-THAN SIGN/QUESTION MARK/COMMERCIAL AT
41 LATIN CAPITAL LETTER /A/B/C/D/E/F/G/H/I/J/K/L/M/N/O/P/Q/R/S/T/U/V/W/X/Y/Z
5B /LEFT SQUARE BRACKET/REVERSE SOLIDUS/RIGHT SQUARE BRACKET/CIRCUMFLEX ACCENT/LOW LINE
60 /GRAVE ACCENT
61 LATIN SMALL LETTER /A/B/C/D/E/F/G/H/I/J/K/L/M/N/O/P/Q/R/S/T/U/V/W/X/Y/Z
7B /LEFT CURLY BRACKET/VERTICAL LINE/RIGHT CURLY BRACKET/TILDE
A0 /NO-BREAK SPACE/INVERTED EXCLAMATION MARK/CENT SIGN/POUND SIGN/CURRENCY SIGN/YEN SIGN/BROKEN BAR
A7 /SECTION SIGN/DIAERESIS/COPYRIGHT SIGN/FEMININE ORDINAL INDICATOR
AB /LEFT-POINTING DOUBLE ANGLE QUOTATION MARK/NOT SIGN/SOFT HYPHEN/REGISTERED SIGN/MACRON
B0 /DEGREE SIGN/PLUS-MINUS SIGN
B2 SUPERSCRIPT /TWO/THREE
B4 /ACUTE ACCENT/MICRO SIGN/PILCROW SIGN/MIDDLE DOT/CEDILLA/SUPERSCRIPT ONE
BA /MASCULINE ORDINAL INDICATOR/RIGHT-POINTING DOUBLE ANGLE QUOTATION MARK
BC VULGAR FRACTION /ONE QUARTER/ONE HALF/THREE QUARTERS
BF /INVERTED QUESTION MARK
C0 LATIN CAPITAL LETTER A WITH /GRAVE/ACUTE/CIRCUMFLEX/TILDE/DIAERESIS/RING ABOVE
C6 LATIN CAPITAL LETTER /AE/C WITH CEDILLA
C8 LATIN CAPITAL LETTER E WITH /GRAVE/ACUTE/CIRCUMFLEX/DIAERESIS
CC LATIN CAPITAL LETTER I WITH /GRAVE/ACUTE/CIRCUMFLEX/DIAERESIS
D0 LATIN CAPITAL LETTER /ETH/N WITH TILDE
D2 LATIN CAPITAL LETTER O WITH /GRAVE/ACUTE/CIRCUMFLEX/TILDE/DIAERESIS
D7 /MULTIPLICATION SIGN/LATIN CAPITAL LETTER O WITH STROKE
D9 LATIN CAPITAL LETTER U WITH /GRAVE/ACUTE/CIRCUMFLEX/DIAERESIS
DD LATIN CAPITAL LETTER /Y WITH ACUTE/THORN
DF /LATIN SMALL LETTER SHARP S
E0 LATIN SMALL LETTER A WITH /GRAVE/ACUTE/CIRCUMFLEX/TILDE/DIAERESIS/RING ABOVE
E6 LATIN SMALL LETTER /AE/C WITH CEDILLA
E8 LATIN SMALL LETTER E WITH /GRAVE/ACUTE/CIRCUMFLEX/DIAERESIS
EC LATIN SMALL LETTER I WITH /GRAVE/ACUTE/CIRCUMFLEX/DIAERESIS
F0 LATIN SMALL LETTER /ETH/N WITH TILDE
F2 LATIN SMALL LETTER O WITH /GRAVE/ACUTE/CIRCUMFLEX/TILDE/DIAERESIS
F7 /DIVISION SIGN/LATIN SMALL LETTER O WITH STROKE
F9 LATIN SMALL LETTER U WITH /GRAVE/ACUTE/CIRCUMFLEX/DIAERESIS
FD LATIN SMALL LETTER /Y WITH ACUTE/THORN/Y WITH DIAERESIS
100 LATIN /CAPITAL LETTER A WITH MACRON/SMALL LETTER A WITH MACRON/CAPITAL LETTER A WITH BREVE
103 LATIN /SMALL LETTER A WITH BREVE/CAPITAL LETTER A WITH OGONEK/SMALL LETTER A WITH OGONEK
106 LATIN /CAPITAL LETTER C WITH ACUTE/SMALL LETTER C WITH ACUTE/CAPITAL LETTER C WITH CIRCUMFLEX
109 LATIN /SMALL LETTER C WITH CIRCUMFLEX/CAPITAL LETTER C WITH DOT ABOVE
10B LATIN /SMALL LETTER C WITH DOT ABOVE/CAPITAL LETTER C WITH CARON/SMALL LETTER C WITH CARON
10E LATIN /CAPITAL LETTER D WITH CARON/SMALL LETTER D WITH CARON/CAPITAL LETTER D WITH STROKE
111 LATIN /SMALL LETTER D WITH STROKE/CAPITAL LETTER E WITH MACRON/SMALL LETTER E WITH MACRON
114 LATIN /CAPITAL LETTER E WITH BREVE/SMALL LETTER E WITH BREVE/CAPITAL LETTER E WITH DOT ABOVE
117 LATIN /SMALL LETTER E WITH DOT ABOVE/CAPITAL LETTER E WITH OGONEK/SMALL LETTER E WITH OGONEK
11A LATIN /CAPITAL LETTER E WITH CARON/SMALL LETTER E WITH CARON/CAPITAL LETTER G WITH CIRCUMFLEX
11D LATIN /SMALL LETTER G WITH CIRCUMFLEX/CAPITAL LETTER G WITH BREVE/SMALL LETTER G WITH BREVE
120 LATIN /CAPITAL LETTER G WITH DOT ABOVE/SMALL LETTER G WITH DOT ABOVE
122 LATIN /CAPITAL LETTER G WITH CEDILLA/SMALL LETTER G WITH CEDILLA
124 LATIN /CAPITAL LETTER H WITH CIRCUMFLEX/SMALL LETTER H WITH CIRCUMFLEX
126 LATIN /CAPITAL LETTER H WITH STROKE/SMALL LETTER H WITH STROKE/CAPITAL LETTER I WITH TILDE
129 LATIN /SMALL LETTER I WITH TILDE/CAPITAL LETTER I WITH MACRON/SMALL LETTER I WITH MACRON
12C LATIN /CAPITAL LETTER I WITH BREVE/SMALL LETTER I WITH BREVE/CAPITAL LETTER I WITH OGONEK
12F LATIN /SMALL LETTER I WITH OGONEK/CAPITAL LETTER I WITH DOT ABOVE/SMALL LETTER DOTLESS I
132 LATIN /CAPITAL LIGATURE IJ/SMALL LIGATURE IJ/CAPITAL LETTER J WITH CIRCUMFLEX
135 LATIN /SMALL LETTER J WITH CIRCUMFLEX/CAPITAL LETTER K WITH CEDILLA
137 LATIN SMALL LETTER /K WITH CEDILLA/KRA
139 LATIN /CAPITAL LETTER L WITH ACUTE/SMALL LETTER L WITH ACUTE/CAPITAL LETTER L WITH CEDILLA
13C LATIN /SMALL LETTER L WITH CEDILLA/CAPITAL LETTER L WITH CARON/SMALL LETTER L WITH CARON
13F LATIN /CAPITAL LETTER L WITH MIDDLE DOT/SMALL LETTER L WITH MIDDLE DOT
141 LATIN /CAPITAL LETTER L WITH STROKE/SMALL LETTER L WITH STROKE/CAPITAL LETTER N WITH ACUTE
144 LATIN /SMALL LETTER N WITH ACUTE/CAPITAL LETTER N WITH CEDILLA/SMALL LETTER N WITH CEDILLA
147 /LATIN CAPITAL LETTER N WITH CARON
148 LATIN SMALL LETTER N /WITH CARON/PRECEDED BY APOSTROPHE
14A LATIN /CAPITAL LETTER ENG/SMALL LETTER ENG/CAPITAL LETTER O WITH MACRON
14D LATIN /SMALL LETTER O WITH MACRON/CAPITAL LETTER O WITH BREVE/SMALL LETTER O WITH BREVE
150 LATIN /CAPITAL LETTER O WITH DOUBLE ACUTE/SMALL LETTER O WITH DOUBLE ACUTE/CAPITAL LIGATURE OE
153 LATIN /SMALL LIGATURE OE/CAPITAL LETTER R WITH ACUTE/SMALL LETTER R WITH ACUTE
156 LATIN /CAPITAL LETTER R WITH CEDILLA/SMALL LETTER R WITH CEDILLA/CAPITAL LETTER R WITH CARON
159 LATIN /SMALL LETTER R WITH CARON/CAPITAL LETTER S WITH ACUTE/SMALL LETTER S WITH ACUTE
15C LATIN /CAPITAL LETTER S WITH CIRCUMFLEX/SMALL LETTER S WITH CIRCUMFLEX
15E LATIN /CAPITAL LETTER S WITH CEDILLA/SMALL LETTER S WITH CEDILLA/CAPITAL LETTER S WITH CARON
161 LATIN /SMALL LETTER S WITH CARON/CAPITAL LETTER T WITH CEDILLA/SMALL LETTER T WITH CEDILLA
164 LATIN /CAPITAL LETTER T WITH CARON/SMALL LETTER T WITH CARON/CAPITAL LETTER T WITH STROKE
167 LATIN /SMALL LETTER T WITH STROKE/CAPITAL LETTER U WITH TILDE/SMALL LETTER U WITH TILDE
16A LATIN /CAPITAL LETTER U WITH MACRON/SMALL LETTER U WITH MACRON/CAPITAL LETTER U WITH BREVE
16D LATIN /SMALL LETTER U WITH BREVE/CAPITAL LETTER U WITH RING ABOVE
16F LATIN /SMALL LETTER U WITH RING ABOVE/CAPITAL LETTER U WITH DOUBLE ACUTE
171 LATIN /SMALL LETTER U WITH DOUBLE ACUTE/CAPITAL LETTER U WITH OGONEK/SMALL LETTER U WITH OGONEK
174 LATIN /CAPITAL LETTER W WITH CIRCUMFLEX/SMALL LETTER W WITH CIRCUMFLEX
176 LATIN /CAPITAL LETTER Y WITH CIRCUMFLEX/SMALL LETTER Y WITH CIRCUMFLEX
178 LATIN CAPITAL LETTER /Y WITH DIAERESIS/Z WITH ACUTE
17A LATIN /SMALL LETTER Z WITH ACUTE/CAPITAL LETTER Z WITH DOT ABOVE/SMALL LETTER Z WITH DOT ABOVE
17D /LATIN CAPITAL LETTER Z WITH CARON
17E LATIN SMALL LETTER /Z WITH CARON/LONG S/B WITH STROKE
181 LATIN CAPITAL LETTER B WITH /HOOK/TOPBAR
183 LATIN /SMALL LETTER B WITH TOPBAR/CAPITAL LETTER TONE SIX/SMALL LETTER TONE SIX
186 LATIN CAPITAL LETTER /OPEN O/C WITH HOOK
188 /LATIN SMALL LETTER C WITH HOOK
189 LATIN CAPITAL LETTER /AFRICAN D/D WITH HOOK/D WITH TOPBAR
18C LATIN SMALL LETTER /D WITH TOPBAR/TURNED DELTA
18E LATIN CAPITAL LETTER /REVERSED E/SCHWA/OPEN E/F WITH HOOK
192 LATIN /SMALL LETTER F WITH HOOK/CAPITAL LETTER G WITH HOOK/CAPITAL LETTER GAMMA/SMALL LETTER HV
196 LATIN CAPITAL LETTER /IOTA/I WITH STROKE/K WITH HOOK
199 LATIN SMALL LETTER /K WITH HOOK/L WITH BAR/LAMBDA WITH STROKE
19C LATIN CAPITAL LETTER /TURNED M/N WITH LEFT HOOK
19E /LATIN SMALL LETTER N WITH LONG RIGHT LEG
19F LATIN CAPITAL LETTER O WITH /MIDDLE TILDE/HORN
1A1 LATIN /SMALL LETTER O WITH HORN/CAPITAL LETTER OI/SMALL LETTER OI/CAPITAL LETTER P WITH HOOK
1A5 LATIN /SMALL LETTER P WITH HOOK/LETTER YR/CAPITAL LETTER TONE TWO/SMALL LETTER TONE TWO
1A9 LATIN /CAPITAL LETTER ESH/LETTER REVERSED ESH LOOP/SMALL LETTER T WITH PALATAL HOOK
1AC LATIN /CAPITAL LETTER T WITH HOOK/SMALL LETTER T WITH HOOK
1AE LATIN CAPITAL LETTER /T WITH RETROFLEX HOOK/U WITH HORN
1B0 /LATIN SMALL LETTER U WITH HORN
1B1 LATIN CAPITAL LETTER /UPSILON/V WITH HOOK/Y WITH HOOK
1B4 LATIN /SMALL LETTER Y WITH HOOK/CAPITAL LETTER Z WITH STROKE/SMALL LETTER Z WITH STROKE
1B7 LATIN CAPITAL LETTER /EZH/EZH REVERSED
1B9 LATIN SMALL LETTER EZH /REVERSED/WITH TAIL
1BB LATIN /LETTER TWO WITH STROKE/CAPITAL LETTER TONE FIVE/SMALL LETTER TONE FIVE
1BE LATIN LETTER /INVERTED GLOTTAL STOP WITH STROKE/WYNN/DENTAL CLICK/LATERAL CLICK/ALVEOLAR CLICK
1C3 /LATIN LETTER RETROFLEX CLICK
1C4 LATIN CAPITAL LETTER /DZ WITH CARON/D WITH SMALL LETTER Z WITH CARON
1C6 /LATIN SMALL LETTER DZ WITH CARON
1C7 LATIN CAPITAL LETTER /LJ/L WITH SMALL LETTER J
1C9 /LATIN SMALL LETTER LJ
1CA LATIN CAPITAL LETTER /NJ/N WITH SMALL LETTER J
1CC LATIN /SMALL LETTER NJ/CAPITAL LETTER A WITH CARON/SMALL LETTER A WITH CARON
1CF LATIN /CAPITAL LETTER I WITH CARON/SMALL LETTER I WITH CARON/CAPITAL LETTER O WITH CARON
1D2 LATIN /SMALL LETTER O WITH CARON/CAPITAL LETTER U WITH CARON/SMALL LETTER U WITH CARON
1D5 LATIN /CAPITAL LETTER U WITH DIAERESIS AND MACRON/SMALL LETTER U WITH DIAERESIS AND MACRON
1D7 LATIN /CAPITAL LETTER U WITH DIAERESIS AND ACUTE/SMALL LETTER U WITH DIAERESIS AND ACUTE
1D9 LATIN /CAPITAL LETTER U WITH DIAERESIS AND CARON/SMALL LETTER U WITH DIAERESIS AND CARON
1DB /LATIN CAPITAL LETTER U WITH DIAERESIS AND GRAVE
1DC LATIN SMALL LETTER /U WITH DIAERESIS AND GRAVE/TURNED E
1DE LATIN /CAPITAL LETTER A WITH DIAERESIS AND MACRON/SMALL LETTER A WITH DIAERESIS AND MACRON
1E0 LATIN /CAPITAL LETTER A WITH DOT ABOVE AND MACRON/SMALL LETTER A WITH DOT ABOVE AND MACRON
1E2 LATIN /CAPITAL LETTER AE WITH MACRON/SMALL LETTER AE WITH MACRON/CAPITAL LETTER G WITH STROKE
1E5 LATIN /SMALL LETTER G WITH STROKE/CAPITAL LETTER G WITH CARON/SMALL LETTER G WITH CARON
1E8 LATIN /CAPITAL LETTER K WITH CARON/SMALL LETTER K WITH CARON/CAPITAL LETTER O WITH OGONEK
1EB LATIN /SMALL LETTER O WITH OGONEK/CAPITAL LETTER O WITH OGONEK AND MACRON
1ED LATIN /SMALL LETTER O WITH OGONEK AND MACRON/CAPITAL LETTER EZH WITH CARON
1EF LATIN SMALL LETTER /EZH WITH CARON/J WITH CARON
1F1 LATIN CAPITAL LETTER /DZ/D WITH SMALL LETTER Z
1F3 LATIN /SMALL LETTER DZ/CAPITAL LETTER G WITH ACUTE/SMALL LETTER G WITH ACUTE
1F6 LATIN CAPITAL LETTER /HWAIR/WYNN/N WITH GRAVE
1F9 LATIN /SMALL LETTER N WITH GRAVE/CAPITAL LETTER A WITH RING ABOVE AND ACUTE
1FB LATIN /SMALL LETTER A WITH RING ABOVE AND ACUTE/CAPITAL LETTER AE WITH ACUTE
1FD LATIN /SMALL LETTER AE WITH ACUTE/CAPITAL LETTER O WITH STROKE AND ACUTE
1FF LATIN /SMALL LETTER O WITH STROKE AND ACUTE/CAPITAL LETTER A WITH DOUBLE GRAVE
201 LATIN /SMALL LETTER A WITH DOUBLE GRAVE/CAPITAL LETTER A WITH INVERTED BREVE
203 LATIN /SMALL LETTER A WITH INVERTED BREVE/CAPITAL LETTER E WITH DOUBLE GRAVE
205 LATIN /SMALL LETTER E WITH DOUBLE GRAVE/CAPITAL LETTER E WITH INVERTED BREVE
207 LATIN /SMALL LETTER E WITH INVERTED BREVE/CAPITAL LETTER I WITH DOUBLE GRAVE
209 LATIN /SMALL LETTER I WITH DOUBLE GRAVE/CAPITAL LETTER I WITH INVERTED BREVE
20B LATIN /SMALL LETTER I WITH INVERTED BREVE/CAPITAL LETTER O WITH DOUBLE GRAVE
20D LATIN /SMALL LETTER O WITH DOUBLE GRAVE/CAPITAL LETTER O WITH INVERTED BREVE
20F LATIN /SMALL LETTER O WITH INVERTED BREVE/CAPITAL LETTER R WITH DOUBLE GRAVE
211 LATIN /SMALL LETTER R WITH DOUBLE GRAVE/CAPITAL LETTER R WITH INVERTED BREVE
213 LATIN /SMALL LETTER R WITH INVERTED BREVE/CAPITAL LETTER U WITH DOUBLE GRAVE
215 LATIN /SMALL LETTER U WITH DOUBLE GRAVE/CAPITAL LETTER U WITH INVERTED BREVE
217 LATIN /SMALL LETTER U WITH INVERTED BREVE/CAPITAL LETTER S WITH COMMA BELOW
219 LATIN /SMALL LETTER S WITH COMMA BELOW/CAPITAL LETTER T WITH COMMA BELOW
21B LATIN /SMALL LETTER T WITH COMMA BELOW/CAPITAL LETTER YOGH/SMALL LETTER YOGH
21E LATIN /CAPITAL LETTER H WITH CARON/SMALL LETTER H WITH CARON
220 LATIN /CAPITAL LETTER N WITH LONG RIGHT LEG/SMALL LETTER D WITH CURL/CAPITAL LETTER OU
223 LATIN /SMALL LETTER OU/CAPITAL LETTER Z WITH HOOK/SMALL LETTER Z WITH HOOK
226 LATIN /CAPITAL LETTER A WITH DOT ABOVE/SMALL LETTER A WITH DOT ABOVE
228 LATIN /CAPITAL LETTER E WITH CEDILLA/SMALL LETTER E WITH CEDILLA
22A LATIN /CAPITAL LETTER O WITH DIAERESIS AND MACRON/SMALL LETTER O WITH DIAERESIS AND MACRON
22C LATIN /CAPITAL LETTER O WITH TILDE AND MACRON/SMALL LETTER O WITH TILDE AND MACRON
22E LATIN /CAPITAL LETTER O WITH DOT ABOVE/SMALL LETTER O WITH DOT ABOVE
230 LATIN /CAPITAL LETTER O WITH DOT ABOVE AND MACRON/SMALL LETTER O WITH DOT ABOVE AND MACRON
232 LATIN /CAPITAL LETTER Y WITH MACRON/SMALL LETTER Y WITH MACRON
234 LATIN SMALL LETTER /L WITH CURL/N WITH CURL/T WITH CURL/DOTLESS J/DB DIGRAPH/QP DIGRAPH
23A LATIN CAPITAL LETTER /A WITH STROKE/C WITH STROKE
23C /LATIN SMALL LETTER C WITH STROKE
23D LATIN CAPITAL LETTER /L WITH BAR/T WITH DIAGONAL STROKE
23F LATIN SMALL LETTER /S WITH SWASH TAIL/Z WITH SWASH TAIL
241 LATIN /CAPITAL LETTER GLOTTAL STOP/SMALL LETTER GLOTTAL STOP
243 LATIN CAPITAL LETTER /B WITH STROKE/U BAR/TURNED V/E WITH STROKE
247 LATIN /SMALL LETTER E WITH STROKE/CAPITAL LETTER J WITH STROKE/SMALL LETTER J WITH STROKE
24A LATIN /CAPITAL LETTER SMALL Q WITH HOOK TAIL/SMALL LETTER Q WITH HOOK TAIL
24C LATIN /CAPITAL LETTER R WITH STROKE/SMALL LETTER R WITH STROKE/CAPITAL LETTER Y WITH STROKE
24F LATIN SMALL LETTER /Y WITH STROKE/TURNED A/ALPHA/TURNED ALPHA/B WITH HOOK/OPEN O/C WITH CURL
256 LATIN SMALL LETTER /D WITH TAIL/D WITH HOOK/REVERSED E/SCHWA/SCHWA WITH HOOK/OPEN E
25C LATIN SMALL LETTER REVERSED OPEN /E/E WITH HOOK
25E LATIN SMALL LETTER /CLOSED REVERSED OPEN E/DOTLESS J WITH STROKE/G WITH HOOK/SCRIPT G
262 /LATIN LETTER SMALL CAPITAL G
263 LATIN SMALL LETTER /GAMMA/RAMS HORN/TURNED H/H WITH HOOK/HENG WITH HOOK/I WITH STROKE/IOTA
26A /LATIN LETTER SMALL CAPITAL I
26B LATIN SMALL LETTER /L WITH MIDDLE TILDE/L WITH BELT/L WITH RETROFLEX HOOK/LEZH/TURNED M
270 LATIN SMALL LETTER /TURNED M WITH LONG LEG/M WITH HOOK/N WITH LEFT HOOK/N WITH RETROFLEX HOOK
274 LATIN /LETTER SMALL CAPITAL N/SMALL LETTER BARRED O/LETTER SMALL CAPITAL OE
277 LATIN SMALL LETTER /CLOSED OMEGA/PHI/TURNED R/TURNED R WITH LONG LEG/TURNED R WITH HOOK
27C LATIN SMALL LETTER /R WITH LONG LEG/R WITH TAIL/R WITH FISHHOOK/REVERSED R WITH FISHHOOK
280 LATIN LETTER SMALL CAPITAL /R/INVERTED R
282 LATIN SMALL LETTER /S WITH HOOK/ESH/DOTLESS J WITH STROKE AND HOOK/SQUAT REVERSED ESH
286 LATIN SMALL LETTER /ESH WITH CURL/TURNED T/T WITH RETROFLEX HOOK/U BAR/UPSILON/V WITH HOOK
28C LATIN SMALL LETTER TURNED /V/W/Y
28F /LATIN LETTER SMALL CAPITAL Y
290 LATIN SMALL LETTER /Z WITH RETROFLEX HOOK/Z WITH CURL/EZH/EZH WITH CURL
294 LATIN LETTER /GLOTTAL STOP/PHARYNGEAL VOICED FRICATIVE/INVERTED GLOTTAL STOP/STRETCHED C
298 LATIN /LETTER BILABIAL CLICK/LETTER SMALL CAPITAL B/SMALL LETTER CLOSED OPEN E
29B LATIN LETTER SMALL CAPITAL /G WITH HOOK/H
29D LATIN SMALL LETTER /J WITH CROSSED-TAIL/TURNED K
29F LATIN /LETTER SMALL CAPITAL L/SMALL LETTER Q WITH HOOK
2A1 LATIN LETTER /GLOTTAL STOP WITH STROKE/REVERSED GLOTTAL STOP WITH STROKE
2A3 LATIN SMALL LETTER /DZ DIGRAPH/DEZH DIGRAPH/DZ DIGRAPH WITH CURL/TS DIGRAPH/TESH DIGRAPH
2A8 LATIN SMALL LETTER /TC DIGRAPH WITH CURL/FENG DIGRAPH/LS DIGRAPH/LZ DIGRAPH
2AC LATIN LETTER /BILABIAL PERCUSSIVE/BIDENTAL PERCUSSIVE
2AE LATIN SMALL LETTER TURNED H WITH /FISHHOOK/FISHHOOK AND TAIL
2B0 MODIFIER LETTER SMALL /H/H WITH HOOK/J/R/TURNED R/TURNED R WITH HOOK/CAPITAL INVERTED R/W/Y
2B9 MODIFIER LETTER /PRIME/DOUBLE PRIME/TURNED COMMA/APOSTROPHE/REVERSED COMMA/RIGHT HALF RING
2BF MODIFIER LETTER /LEFT HALF RING/GLOTTAL STOP/REVERSED GLOTTAL STOP/LEFT ARROWHEAD
2C3 MODIFIER LETTER /RIGHT ARROWHEAD/UP ARROWHEAD/DOWN ARROWHEAD/CIRCUMFLEX ACCENT
2C7 /CARON
2C8 MODIFIER LETTER /VERTICAL LINE/MACRON/ACUTE ACCENT/GRAVE ACCENT
2CC MODIFIER LETTER LOW /VERTICAL LINE/MACRON/GRAVE ACCENT/ACUTE ACCENT
2D0 MODIFIER LETTER /TRIANGULAR COLON/HALF TRIANGULAR COLON/CENTRED RIGHT HALF RING
2D3 MODIFIER LETTER /CENTRED LEFT HALF RING/UP TACK/DOWN TACK/PLUS SIGN/MINUS SIGN
2D8 /BREVE/DOT ABOVE/RING ABOVE/OGONEK/SMALL TILDE/DOUBLE ACUTE ACCENT
2DE MODIFIER LETTER /RHOTIC HOOK/CROSS ACCENT
2E0 MODIFIER LETTER SMALL /GAMMA/L/S/X/REVERSED GLOTTAL STOP
2E5 MODIFIER LETTER /EXTRA-HIGH TONE BAR/HIGH TONE BAR/MID TONE BAR/LOW TONE BAR/EXTRA-LOW TONE BAR
2EA MODIFIER LETTER /YIN DEPARTING TONE MARK/YANG DEPARTING TONE MARK/VOICING/UNASPIRATED
2EE /MODIFIER LETTER DOUBLE APOSTROPHE
2EF MODIFIER LETTER LOW /DOWN ARROWHEAD/UP ARROWHEAD/LEFT ARROWHEAD/RIGHT ARROWHEAD/RING
2F4 MODIFIER LETTER MIDDLE /GRAVE ACCENT/DOUBLE GRAVE ACCENT/DOUBLE ACUTE ACCENT
2F7 MODIFIER LETTER /LOW TILDE/RAISED COLON/BEGIN HIGH TONE/END HIGH TONE/BEGIN LOW TONE
2FC MODIFIER LETTER /END LOW TONE/SHELF/OPEN SHELF/LOW LEFT ARROW
300 COMBINING /GRAVE ACCENT/ACUTE ACCENT/CIRCUMFLEX ACCENT/TILDE/MACRON/OVERLINE/BREVE/DOT ABOVE
308 COMBINING /DIAERESIS/HOOK ABOVE/RING ABOVE/DOUBLE ACUTE ACCENT/CARON/VERTICAL LINE ABOVE
30E COMBINING /DOUBLE VERTICAL LINE ABOVE/DOUBLE GRAVE ACCENT/CANDRABINDU/INVERTED BREVE
312 COMBINING /TURNED COMMA ABOVE/COMMA ABOVE/REVERSED COMMA ABOVE/COMMA ABOVE RIGHT
316 COMBINING /GRAVE ACCENT BELOW/ACUTE ACCENT BELOW/LEFT TACK BELOW/RIGHT TACK BELOW
31A COMBINING /LEFT ANGLE ABOVE/HORN/LEFT HALF RING BELOW/UP TACK BELOW/DOWN TACK BELOW
31F COMBINING /PLUS SIGN BELOW/MINUS SIGN BELOW/PALATALIZED HOOK BELOW/RETROFLEX HOOK BELOW
323 COMBINING /DOT BELOW/DIAERESIS BELOW/RING BELOW/COMMA BELOW/CEDILLA/OGONEK/VERTICAL LINE BELOW
32A COMBINING /BRIDGE BELOW/INVERTED DOUBLE ARCH BELOW/CARON BELOW/CIRCUMFLEX ACCENT BELOW
32E COMBINING /BREVE BELOW/INVERTED BREVE BELOW/TILDE BELOW/MACRON BELOW/LOW LINE/DOUBLE LOW LINE
334 COMBINING /TILDE OVERLAY/SHORT STROKE OVERLAY/LONG STROKE OVERLAY/SHORT SOLIDUS OVERLAY
338 COMBINING /LONG SOLIDUS OVERLAY/RIGHT HALF RING BELOW/INVERTED BRIDGE BELOW/SQUARE BELOW
33C COMBINING /SEAGULL BELOW/X ABOVE/VERTICAL TILDE/DOUBLE OVERLINE/GRAVE TONE MARK/ACUTE TONE MARK
342 COMBINING GREEK /PERISPOMENI/KORONIS/DIALYTIKA TONOS/YPOGEGRAMMENI
346 COMBINING /BRIDGE ABOVE/EQUALS SIGN BELOW/DOUBLE VERTICAL LINE BELOW/LEFT ANGLE BELOW
34A COMBINING /NOT TILDE ABOVE/HOMOTHETIC ABOVE/ALMOST EQUAL TO ABOVE/LEFT RIGHT ARROW BELOW
34E COMBINING /UPWARDS ARROW BELOW/GRAPHEME JOINER/RIGHT ARROWHEAD ABOVE/LEFT HALF RING ABOVE
352 COMBINING /FERMATA/X BELOW/LEFT ARROWHEAD BELOW
355 COMBINING RIGHT /ARROWHEAD BELOW/ARROWHEAD AND UP ARROWHEAD BELOW/HALF RING ABOVE
358 COMBINING /DOT ABOVE RIGHT/ASTERISK BELOW/DOUBLE RING BELOW/ZIGZAG ABOVE/DOUBLE BREVE BELOW
35D COMBINING DOUBLE /BREVE/MACRON/MACRON BELOW/TILDE/INVERTED BREVE/RIGHTWARDS ARROW BELOW
363 COMBINING LATIN SMALL LETTER /A/E/I/O/U/C/D/H/M/R/T/V/X
370 GREEK /CAPITAL LETTER HETA/SMALL LETTER HETA/CAPITAL LETTER ARCHAIC SAMPI
373 GREEK /SMALL LETTER ARCHAIC SAMPI/NUMERAL SIGN/LOWER NUMERAL SIGN
376 GREEK /CAPITAL LETTER PAMPHYLIAN DIGAMMA/SMALL LETTER PAMPHYLIAN DIGAMMA
37A GREEK /YPOGEGRAMMENI/SMALL REVERSED LUNATE SIGMA SYMBOL/SMALL DOTTED LUNATE SIGMA SYMBOL
37D GREEK /SMALL REVERSED DOTTED LUNATE SIGMA SYMBOL/QUESTION MARK/CAPITAL LETTER YOT
384 GREEK /TONOS/DIALYTIKA TONOS/CAPITAL LETTER ALPHA WITH TONOS/ANO TELEIA
388 GREEK CAPITAL LETTER /EPSILON WITH TONOS/ETA WITH TONOS/IOTA WITH TONOS
38C /GREEK CAPITAL LETTER OMICRON WITH TONOS
38E GREEK CAPITAL LETTER /UPSILON WITH TONOS/OMEGA WITH TONOS
390 /GREEK SMALL LETTER IOTA WITH DIALYTIKA AND TONOS
391 GREEK CAPITAL LETTER /ALPHA/BETA/GAMMA/DELTA/EPSILON/ZETA/ETA/THETA/IOTA/KAPPA/LAMDA/MU/NU/XI
39F GREEK CAPITAL LETTER /OMICRON/PI/RHO
3A3 GREEK CAPITAL LETTER /SIGMA/TAU/UPSILON/PHI/CHI/PSI/OMEGA/IOTA WITH DIALYTIKA
3AB /GREEK CAPITAL LETTER UPSILON WITH DIALYTIKA
3AC GREEK SMALL LETTER /ALPHA WITH TONOS/EPSILON WITH TONOS/ETA WITH TONOS/IOTA WITH TONOS
3B0 GREEK SMALL LETTER /UPSILON WITH DIALYTIKA AND TONOS/ALPHA/BETA/GAMMA/DELTA/EPSILON/ZETA/ETA
3B8 GREEK SMALL LETTER /THETA/IOTA/KAPPA/LAMDA/MU/NU/XI/OMICRON/PI/RHO/FINAL SIGMA/SIGMA/TAU
3C5 GREEK SMALL LETTER /UPSILON/PHI/CHI/PSI/OMEGA/IOTA WITH DIALYTIKA/UPSILON WITH DIALYTIKA
3CC GREEK SMALL LETTER /OMICRON WITH TONOS/UPSILON WITH TONOS/OMEGA WITH TONOS
3CF GREEK /CAPITAL KAI SYMBOL/BETA SYMBOL/THETA SYMBOL
3D2 GREEK UPSILON WITH /HOOK SYMBOL/ACUTE AND HOOK SYMBOL/DIAERESIS AND HOOK SYMBOL
3D5 GREEK /PHI SYMBOL/PI SYMBOL/KAI SYMBOL/LETTER ARCHAIC KOPPA/SMALL LETTER ARCHAIC KOPPA
3DA GREEK /LETTER STIGMA/SMALL LETTER STIGMA/LETTER DIGAMMA/SMALL LETTER DIGAMMA/LETTER KOPPA
3DF GREEK /SMALL LETTER KOPPA/LETTER SAMPI/SMALL LETTER SAMPI
3E2 COPTIC /CAPITAL LETTER SHEI/SMALL LETTER SHEI/CAPITAL LETTER FEI/SMALL LETTER FEI
3E6 COPTIC /CAPITAL LETTER KHEI/SMALL LETTER KHEI/CAPITAL LETTER HORI/SMALL LETTER HORI
3EA COPTIC /CAPITAL LETTER GANGIA/SMALL LETTER GANGIA/CAPITAL LETTER SHIMA/SMALL LETTER SHIMA
3EE COPTIC /CAPITAL LETTER DEI/SMALL LETTER DEI
3F0 GREEK /KAPPA SYMBOL/RHO SYMBOL/LUNATE SIGMA SYMBOL/LETTER YOT/CAPITAL THETA SYMBOL
3F5 GREEK /LUNATE EPSILON SYMBOL/REVERSED LUNATE EPSILON SYMBOL/CAPITAL LETTER SHO/SMALL LETTER SHO
3F9 GREEK CAPITAL /LUNATE SIGMA SYMBOL/LETTER SAN
3FB GREEK /SMALL LETTER SAN/RHO WITH STROKE SYMBOL/CAPITAL REVERSED LUNATE SIGMA SYMBOL
3FE GREEK CAPITAL /DOTTED LUNATE SIGMA SYMBOL/REVERSED DOTTED LUNATE SIGMA SYMBOL
400 CYRILLIC CAPITAL LETTER /IE WITH GRAVE/IO/DJE/GJE/UKRAINIAN IE/DZE/BYELORUSSIAN-UKRAINIAN I/YI
408 CYRILLIC CAPITAL LETTER /JE/LJE/NJE/TSHE/KJE/I WITH GRAVE/SHORT U/DZHE/A/BE/VE/GHE/DE/IE/ZHE/ZE
418 CYRILLIC CAPITAL LETTER /I/SHORT I/KA/EL/EM/EN/O/PE/ER/ES/TE/U/EF/HA/TSE/CHE/SHA/SHCHA
42A CYRILLIC CAPITAL LETTER /HARD SIGN/YERU/SOFT SIGN/E/YU/YA
430 CYRILLIC SMALL LETTER /A/BE/VE/GHE/DE/IE/ZHE/ZE/I/SHORT I/KA/EL/EM/EN/O/PE/ER/ES/TE/U/EF/HA/TSE
447 CYRILLIC SMALL LETTER /CHE/SHA/SHCHA/HARD SIGN/YERU/SOFT SIGN/E/YU/YA/IE WITH GRAVE/IO/DJE/GJE
454 CYRILLIC SMALL LETTER /UKRAINIAN IE/DZE/BYELORUSSIAN-UKRAINIAN I/YI/JE/LJE/NJE/TSHE/KJE
45D CYRILLIC SMALL LETTER /I WITH GRAVE/SHORT U/DZHE
460 CYRILLIC /CAPITAL LETTER OMEGA/SMALL LETTER OMEGA/CAPITAL LETTER YAT/SMALL LETTER YAT
464 CYRILLIC /CAPITAL LETTER IOTIFIED E/SMALL LETTER IOTIFIED E/CAPITAL LETTER LITTLE YUS
467 CYRILLIC /SMALL LETTER LITTLE YUS/CAPITAL LETTER IOTIFIED LITTLE YUS
469 CYRILLIC /SMALL LETTER IOTIFIED LITTLE YUS/CAPITAL LETTER BIG YUS/SMALL LETTER BIG YUS
46C CYRILLIC /CAPITAL LETTER IOTIFIED BIG YUS/SMALL LETTER IOTIFIED BIG YUS/CAPITAL LETTER KSI
46F CYRILLIC /SMALL LETTER KSI/CAPITAL LETTER PSI/SMALL LETTER PSI/CAPITAL LETTER FITA
473 CYRILLIC /SMALL LETTER FITA/CAPITAL LETTER IZHITSA/SMALL LETTER IZHITSA
476 /CYRILLIC CAPITAL LETTER IZHITSA WITH DOUBLE GRAVE ACCENT
477 CYRILLIC /SMALL LETTER IZHITSA WITH DOUBLE GRAVE ACCENT/CAPITAL LETTER UK/SMALL LETTER UK
47A CYRILLIC /CAPITAL LETTER ROUND OMEGA/SMALL LETTER ROUND OMEGA/CAPITAL LETTER OMEGA WITH TITLO
47D CYRILLIC /SMALL LETTER OMEGA WITH TITLO/CAPITAL LETTER OT/SMALL LETTER OT/CAPITAL LETTER KOPPA
481 CYRILLIC /SMALL LETTER KOPPA/THOUSANDS SIGN
483 COMBINING CYRILLIC /TITLO/PALATALIZATION/DASIA PNEUMATA/PSILI PNEUMATA/POKRYTIE
488 COMBINING CYRILLIC /HUNDRED THOUSANDS SIGN/MILLIONS SIGN
48A CYRILLIC /CAPITAL LETTER SHORT I WITH TAIL/SMALL LETTER SHORT I WITH TAIL
48C CYRILLIC /CAPITAL LETTER SEMISOFT SIGN/SMALL LETTER SEMISOFT SIGN/CAPITAL LETTER ER WITH TICK
48F CYRILLIC /SMALL LETTER ER WITH TICK/CAPITAL LETTER GHE WITH UPTURN/SMALL LETTER GHE WITH UPTURN
492 CYRILLIC /CAPITAL LETTER GHE WITH STROKE/SMALL LETTER GHE WITH STROKE
494 CYRILLIC /CAPITAL LETTER GHE WITH MIDDLE HOOK/SMALL LETTER GHE WITH MIDDLE HOOK
496 CYRILLIC /CAPITAL LETTER ZHE WITH DESCENDER/SMALL LETTER ZHE WITH DESCENDER
498 CYRILLIC /CAPITAL LETTER ZE WITH DESCENDER/SMALL LETTER ZE WITH DESCENDER
49A CYRILLIC /CAPITAL LETTER KA WITH DESCENDER/SMALL LETTER KA WITH DESCENDER
49C CYRILLIC /CAPITAL LETTER KA WITH VERTICAL STROKE/SMALL LETTER KA WITH VERTICAL STROKE
49E CYRILLIC /CAPITAL LETTER KA WITH STROKE/SMALL LETTER KA WITH STROKE/CAPITAL LETTER BASHKIR KA
4A1 CYRILLIC /SMALL LETTER BASHKIR KA/CAPITAL LETTER EN WITH DESCENDER
4A3 CYRILLIC /SMALL LETTER EN WITH DESCENDER/CAPITAL LIGATURE EN GHE/SMALL LIGATURE EN GHE
4A6 CYRILLIC /CAPITAL LETTER PE WITH MIDDLE HOOK/SMALL LETTER PE WITH MIDDLE HOOK
4A8 CYRILLIC /CAPITAL LETTER ABKHASIAN HA/SMALL LETTER ABKHASIAN HA
4AA CYRILLIC /CAPITAL LETTER ES WITH DESCENDER/SMALL LETTER ES WITH DESCENDER
4AC CYRILLIC /CAPITAL LETTER TE WITH DESCENDER/SMALL LETTER TE WITH DESCENDER
4AE CYRILLIC /CAPITAL LETTER STRAIGHT U/SMALL LETTER STRAIGHT U
4B0 CYRILLIC /CAPITAL LETTER STRAIGHT U WITH STROKE/SMALL LETTER STRAIGHT U WITH STROKE
4B2 CYRILLIC /CAPITAL LETTER HA WITH DESCENDER/SMALL LETTER HA WITH DESCENDER
4B4 CYRILLIC /CAPITAL LIGATURE TE TSE/SMALL LIGATURE TE TSE/CAPITAL LETTER CHE WITH DESCENDER
4B7 CYRILLIC /SMALL LETTER CHE WITH DESCENDER/CAPITAL LETTER CHE WITH VERTICAL STROKE
4B9 CYRILLIC /SMALL LETTER CHE WITH VERTICAL STROKE/CAPITAL LETTER SHHA/SMALL LETTER SHHA
4BC CYRILLIC /CAPITAL LETTER ABKHASIAN CHE/SMALL LETTER ABKHASIAN CHE
4BE CYRILLIC /CAPITAL LETTER ABKHASIAN CHE WITH DESCENDER/SMALL LETTER ABKHASIAN CHE WITH DESCENDER
4C0 CYRILLIC /LETTER PALOCHKA/CAPITAL LETTER ZHE WITH BREVE/SMALL LETTER ZHE WITH BREVE
4C3 CYRILLIC /CAPITAL LETTER KA WITH HOOK/SMALL LETTER KA WITH HOOK/CAPITAL LETTER EL WITH TAIL
4C6 CYRILLIC /SMALL LETTER EL WITH TAIL/CAPITAL LETTER EN WITH HOOK/SMALL LETTER EN WITH HOOK
4C9 CYRILLIC /CAPITAL LETTER EN WITH TAIL/SMALL LETTER EN WITH TAIL/CAPITAL LETTER KHAKASSIAN CHE
4CC CYRILLIC /SMALL LETTER KHAKASSIAN CHE/CAPITAL LETTER EM WITH TAIL/SMALL LETTER EM WITH TAIL
4CF CYRILLIC /SMALL LETTER PALOCHKA/CAPITAL LETTER A WITH BREVE/SMALL LETTER A WITH BREVE
4D2 CYRILLIC /CAPITAL LETTER A WITH DIAERESIS/SMALL LETTER A WITH DIAERESIS/CAPITAL LIGATURE A IE
4D5 CYRILLIC /SMALL LIGATURE A IE/CAPITAL LETTER IE WITH BREVE/SMALL LETTER IE WITH BREVE
4D8 CYRILLIC /CAPITAL LETTER SCHWA/SMALL LETTER SCHWA/CAPITAL LETTER SCHWA WITH DIAERESIS
4DB CYRILLIC /SMALL LETTER SCHWA WITH DIAERESIS/CAPITAL LETTER ZHE WITH DIAERESIS
4DD CYRILLIC /SMALL LETTER ZHE WITH DIAERESIS/CAPITAL LETTER ZE WITH DIAERESIS
4DF CYRILLIC /SMALL LETTER ZE WITH DIAERESIS/CAPITAL LETTER ABKHASIAN DZE
4E1 CYRILLIC /SMALL LETTER ABKHASIAN DZE/CAPITAL LETTER I WITH MACRON/SMALL LETTER I WITH MACRON
4E4 CYRILLIC /CAPITAL LETTER I WITH DIAERESIS/SMALL LETTER I WITH DIAERESIS
4E6 CYRILLIC /CAPITAL LETTER O WITH DIAERESIS/SMALL LETTER O WITH DIAERESIS/CAPITAL LETTER BARRED O
4E9 CYRILLIC /SMALL LETTER BARRED O/CAPITAL LETTER BARRED O WITH DIAERESIS
4EB CYRILLIC /SMALL LETTER BARRED O WITH DIAERESIS/CAPITAL LETTER E WITH DIAERESIS
4ED CYRILLIC /SMALL LETTER E WITH DIAERESIS/CAPITAL LETTER U WITH MACRON/SMALL LETTER U WITH MACRON
4F0 CYRILLIC /CAPITAL LETTER U WITH DIAERESIS/SMALL LETTER U WITH DIAERESIS
4F2 CYRILLIC /CAPITAL LETTER U WITH DOUBLE ACUTE/SMALL LETTER U WITH DOUBLE ACUTE
4F4 CYRILLIC /CAPITAL LETTER CHE WITH DIAERESIS/SMALL LETTER CHE WITH DIAERESIS
4F6 CYRILLIC /CAPITAL LETTER GHE WITH DESCENDER/SMALL LETTER GHE WITH DESCENDER
4F8 CYRILLIC /CAPITAL LETTER YERU WITH DIAERESIS/SMALL LETTER YERU WITH DIAERESIS
4FA CYRILLIC /CAPITAL LETTER GHE WITH STROKE AND HOOK/SMALL LETTER GHE WITH STROKE AND HOOK
4FC CYRILLIC /CAPITAL LETTER HA WITH HOOK/SMALL LETTER HA WITH HOOK/CAPITAL LETTER HA WITH STROKE
4FF CYRILLIC /SMALL LETTER HA WITH STROKE/CAPITAL LETTER KOMI DE/SMALL LETTER KOMI DE
502 CYRILLIC /CAPITAL LETTER KOMI DJE/SMALL LETTER KOMI DJE/CAPITAL LETTER KOMI ZJE
505 CYRILLIC /SMALL LETTER KOMI ZJE/CAPITAL LETTER KOMI DZJE/SMALL LETTER KOMI DZJE
508 CYRILLIC /CAPITAL LETTER KOMI LJE/SMALL LETTER KOMI LJE/CAPITAL LETTER KOMI NJE
50B CYRILLIC /SMALL LETTER KOMI NJE/CAPITAL LETTER KOMI SJE/SMALL LETTER KOMI SJE
50E CYRILLIC /CAPITAL LETTER KOMI TJE/SMALL LETTER KOMI TJE/CAPITAL LETTER REVERSED ZE
511 CYRILLIC /SMALL LETTER REVERSED ZE/CAPITAL LETTER EL WITH HOOK/SMALL LETTER EL WITH HOOK
514 CYRILLIC /CAPITAL LETTER LHA/SMALL LETTER LHA/CAPITAL LETTER RHA/SMALL LETTER RHA
518 CYRILLIC /CAPITAL LETTER YAE/SMALL LETTER YAE/CAPITAL LETTER QA/SMALL LETTER QA
51C CYRILLIC /CAPITAL LETTER WE/SMALL LETTER WE/CAPITAL LETTER ALEUT KA/SMALL LETTER ALEUT KA
520 CYRILLIC /CAPITAL LETTER EL WITH MIDDLE HOOK/SMALL LETTER EL WITH MIDDLE HOOK
522 CYRILLIC /CAPITAL LETTER EN WITH MIDDLE HOOK/SMALL LETTER EN WITH MIDDLE HOOK
524 CYRILLIC /CAPITAL LETTER PE WITH DESCENDER/SMALL LETTER PE WITH DESCENDER
526 CYRILLIC /CAPITAL LETTER SHHA WITH DESCENDER/SMALL LETTER SHHA WITH DESCENDER
528 CYRILLIC /CAPITAL LETTER EN WITH LEFT HOOK/SMALL LETTER EN WITH LEFT HOOK/CAPITAL LETTER DZZHE
52B CYRILLIC /SMALL LETTER DZZHE/CAPITAL LETTER DCHE/SMALL LETTER DCHE
52E CYRILLIC /CAPITAL LETTER EL WITH DESCENDER/SMALL LETTER EL WITH DESCENDER
531 ARMENIAN CAPITAL LETTER /AYB/BEN/GIM/DA/ECH/ZA/EH/ET/TO/ZHE/INI/LIWN/XEH/CA/KEN/HO/JA/GHAD/CHEH
544 ARMENIAN CAPITAL LETTER /MEN/YI/NOW/SHA/VO/CHA/PEH/JHEH/RA/SEH/VEW/TIWN/REH/CO/YIWN/PIWR/KEH/OH
556 /ARMENIAN CAPITAL LETTER FEH
559 ARMENIAN /MODIFIER LETTER LEFT HALF RING/APOSTROPHE/EMPHASIS MARK/EXCLAMATION MARK/COMMA
55E ARMENIAN /QUESTION MARK/ABBREVIATION MARK/SMALL LETTER TURNED AYB/SMALL LETTER AYB
562 ARMENIAN SMALL LETTER /BEN/GIM/DA/ECH/ZA/EH/ET/TO/ZHE/INI/LIWN/XEH/CA/KEN/HO/JA/GHAD/CHEH/MEN
575 ARMENIAN SMALL LETTER /YI/NOW/SHA/VO/CHA/PEH/JHEH/RA/SEH/VEW/TIWN/REH/CO/YIWN/PIWR/KEH/OH/FEH
587 ARMENIAN /SMALL LIGATURE ECH YIWN/SMALL LETTER YI WITH STROKE/FULL STOP/HYPHEN
58D /RIGHT-FACING ARMENIAN ETERNITY SIGN/LEFT-FACING ARMENIAN ETERNITY SIGN/ARMENIAN DRAM SIGN"

end NoteSchema.Text.CharName
