namespace NoteSchema.Text.CharName

/-- Phonetic letters, and accented letters of the Latin and the Greek script. -/
def phonetic : String :=
"1D00 LATIN LETTER SMALL CAPITAL /A/AE
1D02 /LATIN SMALL LETTER TURNED AE
1D03 LATIN LETTER SMALL CAPITAL /BARRED B/C/D/ETH/E
1D08 LATIN SMALL LETTER TURNED /OPEN E/I
1D0A LATIN LETTER SMALL CAPITAL /J/K/L WITH STROKE/M/REVERSED N/O/OPEN O
1D11 LATIN SMALL LETTER SIDEWAYS /O/OPEN O/O WITH STROKE
1D14 LATIN /SMALL LETTER TURNED OE/LETTER SMALL CAPITAL OU
1D16 LATIN SMALL LETTER /TOP HALF O/BOTTOM HALF O
1D18 LATIN LETTER SMALL CAPITAL /P/REVERSED R/TURNED R/T/U
1D1D LATIN SMALL LETTER SIDEWAYS /U/DIAERESIZED U/TURNED M
1D20 LATIN LETTER SMALL CAPITAL /V/W/Z/EZH
1D24 LATIN LETTER /VOICED LARYNGEAL SPIRANT/AIN
1D26 GREEK LETTER SMALL CAPITAL /GAMMA/LAMDA/PI/RHO/PSI
1D2B /CYRILLIC LETTER SMALL CAPITAL EL
1D2C MODIFIER LETTER CAPITAL /A/AE/B/BARRED B/D/E/REVERSED E/G/H/I/J/K/L/M/N/REVERSED N/O/OU/P/R/T
1D41 MODIFIER LETTER CAPITAL /U/W
1D43 MODIFIER LETTER SMALL /A/TURNED A/ALPHA/TURNED AE/B/D/E/SCHWA/OPEN E/TURNED OPEN E/G/TURNED I
1D4F MODIFIER LETTER SMALL /K/M/ENG/O/OPEN O/TOP HALF O/BOTTOM HALF O/P/T/U/SIDEWAYS U/TURNED M/V
1D5C MODIFIER LETTER SMALL /AIN/BETA/GREEK GAMMA/DELTA/GREEK PHI/CHI
1D62 LATIN SUBSCRIPT SMALL LETTER /I/R/U/V
1D66 GREEK SUBSCRIPT SMALL LETTER /BETA/GAMMA/RHO/PHI/CHI
1D6B LATIN SMALL LETTER /UE/B WITH MIDDLE TILDE/D WITH MIDDLE TILDE/F WITH MIDDLE TILDE
1D6F LATIN SMALL LETTER /M WITH MIDDLE TILDE/N WITH MIDDLE TILDE/P WITH MIDDLE TILDE
1D72 LATIN SMALL LETTER R WITH /MIDDLE TILDE/FISHHOOK AND MIDDLE TILDE
1D74 LATIN SMALL LETTER /S WITH MIDDLE TILDE/T WITH MIDDLE TILDE/Z WITH MIDDLE TILDE/TURNED G
1D78 /MODIFIER LETTER CYRILLIC EN
1D79 LATIN SMALL /LETTER INSULAR G/LETTER TH WITH STRIKETHROUGH/CAPITAL LETTER I WITH STROKE
1D7C LATIN SMALL /LETTER IOTA WITH STROKE/LETTER P WITH STROKE/CAPITAL LETTER U WITH STROKE
1D7F LATIN SMALL LETTER /UPSILON WITH STROKE/B WITH PALATAL HOOK/D WITH PALATAL HOOK
1D82 LATIN SMALL LETTER /F WITH PALATAL HOOK/G WITH PALATAL HOOK/K WITH PALATAL HOOK
1D85 LATIN SMALL LETTER /L WITH PALATAL HOOK/M WITH PALATAL HOOK/N WITH PALATAL HOOK
1D88 LATIN SMALL LETTER /P WITH PALATAL HOOK/R WITH PALATAL HOOK/S WITH PALATAL HOOK
1D8B LATIN SMALL LETTER /ESH WITH PALATAL HOOK/V WITH PALATAL HOOK/X WITH PALATAL HOOK
1D8E LATIN SMALL LETTER /Z WITH PALATAL HOOK/A WITH RETROFLEX HOOK/ALPHA WITH RETROFLEX HOOK
1D91 LATIN SMALL LETTER /D WITH HOOK AND TAIL/E WITH RETROFLEX HOOK/OPEN E WITH RETROFLEX HOOK
1D94 LATIN SMALL LETTER /REVERSED OPEN E WITH RETROFLEX HOOK/SCHWA WITH RETROFLEX HOOK
1D96 LATIN SMALL LETTER /I WITH RETROFLEX HOOK/OPEN O WITH RETROFLEX HOOK/ESH WITH RETROFLEX HOOK
1D99 LATIN SMALL LETTER /U WITH RETROFLEX HOOK/EZH WITH RETROFLEX HOOK
1D9B MODIFIER LETTER SMALL /TURNED ALPHA/C/C WITH CURL/ETH/REVERSED OPEN E/F/DOTLESS J WITH STROKE
1DA2 MODIFIER LETTER SMALL /SCRIPT G/TURNED H/I WITH STROKE/IOTA/CAPITAL I/CAPITAL I WITH STROKE
1DA8 MODIFIER LETTER SMALL /J WITH CROSSED-TAIL/L WITH RETROFLEX HOOK/L WITH PALATAL HOOK/CAPITAL L
1DAC MODIFIER LETTER SMALL /M WITH HOOK/TURNED M WITH LONG LEG/N WITH LEFT HOOK
1DAF MODIFIER LETTER SMALL /N WITH RETROFLEX HOOK/CAPITAL N/BARRED O/PHI/S WITH HOOK/ESH
1DB5 MODIFIER LETTER SMALL /T WITH PALATAL HOOK/U BAR/UPSILON/CAPITAL U/V WITH HOOK/TURNED V/Z
1DBC MODIFIER LETTER SMALL /Z WITH RETROFLEX HOOK/Z WITH CURL/EZH/THETA
1DC0 COMBINING /DOTTED GRAVE ACCENT/DOTTED ACUTE ACCENT/SNAKE BELOW/SUSPENSION MARK/MACRON-ACUTE
1DC5 COMBINING /GRAVE-MACRON/MACRON-GRAVE/ACUTE-MACRON/GRAVE-ACUTE-GRAVE/ACUTE-GRAVE-ACUTE
1DCA COMBINING /LATIN SMALL LETTER R BELOW/BREVE-MACRON/MACRON-BREVE/DOUBLE CIRCUMFLEX ABOVE
1DCE COMBINING /OGONEK ABOVE/ZIGZAG BELOW/IS BELOW/UR ABOVE/US ABOVE
1DD3 COMBINING LATIN SMALL LETTER /FLATTENED OPEN A ABOVE/AE/AO/AV/C CEDILLA/INSULAR D/ETH/G
1DDB COMBINING LATIN /LETTER SMALL CAPITAL G/SMALL LETTER K/SMALL LETTER L/LETTER SMALL CAPITAL L
1DDF COMBINING LATIN /LETTER SMALL CAPITAL M/SMALL LETTER N
1DE1 COMBINING LATIN LETTER SMALL CAPITAL /N/R
1DE3 COMBINING LATIN SMALL LETTER /R ROTUNDA/S/LONG S/Z/ALPHA/B/BETA/SCHWA/F
1DEC COMBINING LATIN SMALL LETTER /L WITH DOUBLE MIDDLE TILDE/O WITH LIGHT CENTRALIZATION STROKE/P
1DEF COMBINING LATIN SMALL LETTER /ESH/U WITH LIGHT CENTRALIZATION STROKE/W/A WITH DIAERESIS
1DF3 COMBINING LATIN SMALL LETTER /O WITH DIAERESIS/U WITH DIAERESIS
1DF5 COMBINING /UP TACK ABOVE/KAVYKA ABOVE RIGHT/KAVYKA ABOVE LEFT/DOT ABOVE LEFT
1DF9 COMBINING /WIDE INVERTED BRIDGE BELOW/DOT BELOW LEFT/DELETION MARK/DOUBLE INVERTED BREVE BELOW
1DFD COMBINING /ALMOST EQUAL TO BELOW/LEFT ARROWHEAD ABOVE/RIGHT ARROWHEAD AND DOWN ARROWHEAD BELOW
1E00 LATIN /CAPITAL LETTER A WITH RING BELOW/SMALL LETTER A WITH RING BELOW
1E02 LATIN /CAPITAL LETTER B WITH DOT ABOVE/SMALL LETTER B WITH DOT ABOVE
1E04 LATIN /CAPITAL LETTER B WITH DOT BELOW/SMALL LETTER B WITH DOT BELOW
1E06 LATIN /CAPITAL LETTER B WITH LINE BELOW/SMALL LETTER B WITH LINE BELOW
1E08 LATIN /CAPITAL LETTER C WITH CEDILLA AND ACUTE/SMALL LETTER C WITH CEDILLA AND ACUTE
1E0A LATIN /CAPITAL LETTER D WITH DOT ABOVE/SMALL LETTER D WITH DOT ABOVE
1E0C LATIN /CAPITAL LETTER D WITH DOT BELOW/SMALL LETTER D WITH DOT BELOW
1E0E LATIN /CAPITAL LETTER D WITH LINE BELOW/SMALL LETTER D WITH LINE BELOW
1E10 LATIN /CAPITAL LETTER D WITH CEDILLA/SMALL LETTER D WITH CEDILLA
1E12 LATIN /CAPITAL LETTER D WITH CIRCUMFLEX BELOW/SMALL LETTER D WITH CIRCUMFLEX BELOW
1E14 LATIN /CAPITAL LETTER E WITH MACRON AND GRAVE/SMALL LETTER E WITH MACRON AND GRAVE
1E16 LATIN /CAPITAL LETTER E WITH MACRON AND ACUTE/SMALL LETTER E WITH MACRON AND ACUTE
1E18 LATIN /CAPITAL LETTER E WITH CIRCUMFLEX BELOW/SMALL LETTER E WITH CIRCUMFLEX BELOW
1E1A LATIN /CAPITAL LETTER E WITH TILDE BELOW/SMALL LETTER E WITH TILDE BELOW
1E1C LATIN /CAPITAL LETTER E WITH CEDILLA AND BREVE/SMALL LETTER E WITH CEDILLA AND BREVE
1E1E LATIN /CAPITAL LETTER F WITH DOT ABOVE/SMALL LETTER F WITH DOT ABOVE
1E20 LATIN /CAPITAL LETTER G WITH MACRON/SMALL LETTER G WITH MACRON/CAPITAL LETTER H WITH DOT ABOVE
1E23 LATIN /SMALL LETTER H WITH DOT ABOVE/CAPITAL LETTER H WITH DOT BELOW
1E25 LATIN /SMALL LETTER H WITH DOT BELOW/CAPITAL LETTER H WITH DIAERESIS
1E27 LATIN /SMALL LETTER H WITH DIAERESIS/CAPITAL LETTER H WITH CEDILLA/SMALL LETTER H WITH CEDILLA
1E2A LATIN /CAPITAL LETTER H WITH BREVE BELOW/SMALL LETTER H WITH BREVE BELOW
1E2C LATIN /CAPITAL LETTER I WITH TILDE BELOW/SMALL LETTER I WITH TILDE BELOW
1E2E LATIN /CAPITAL LETTER I WITH DIAERESIS AND ACUTE/SMALL LETTER I WITH DIAERESIS AND ACUTE
1E30 LATIN /CAPITAL LETTER K WITH ACUTE/SMALL LETTER K WITH ACUTE/CAPITAL LETTER K WITH DOT BELOW
1E33 LATIN /SMALL LETTER K WITH DOT BELOW/CAPITAL LETTER K WITH LINE BELOW
1E35 LATIN /SMALL LETTER K WITH LINE BELOW/CAPITAL LETTER L WITH DOT BELOW
1E37 LATIN /SMALL LETTER L WITH DOT BELOW/CAPITAL LETTER L WITH DOT BELOW AND MACRON
1E39 LATIN /SMALL LETTER L WITH DOT BELOW AND MACRON/CAPITAL LETTER L WITH LINE BELOW
1E3B LATIN /SMALL LETTER L WITH LINE BELOW/CAPITAL LETTER L WITH CIRCUMFLEX BELOW
1E3D LATIN /SMALL LETTER L WITH CIRCUMFLEX BELOW/CAPITAL LETTER M WITH ACUTE
1E3F LATIN /SMALL LETTER M WITH ACUTE/CAPITAL LETTER M WITH DOT ABOVE/SMALL LETTER M WITH DOT ABOVE
1E42 LATIN /CAPITAL LETTER M WITH DOT BELOW/SMALL LETTER M WITH DOT BELOW
1E44 LATIN /CAPITAL LETTER N WITH DOT ABOVE/SMALL LETTER N WITH DOT ABOVE
1E46 LATIN /CAPITAL LETTER N WITH DOT BELOW/SMALL LETTER N WITH DOT BELOW
1E48 LATIN /CAPITAL LETTER N WITH LINE BELOW/SMALL LETTER N WITH LINE BELOW
1E4A LATIN /CAPITAL LETTER N WITH CIRCUMFLEX BELOW/SMALL LETTER N WITH CIRCUMFLEX BELOW
1E4C LATIN /CAPITAL LETTER O WITH TILDE AND ACUTE/SMALL LETTER O WITH TILDE AND ACUTE
1E4E LATIN /CAPITAL LETTER O WITH TILDE AND DIAERESIS/SMALL LETTER O WITH TILDE AND DIAERESIS
1E50 LATIN /CAPITAL LETTER O WITH MACRON AND GRAVE/SMALL LETTER O WITH MACRON AND GRAVE
1E52 LATIN /CAPITAL LETTER O WITH MACRON AND ACUTE/SMALL LETTER O WITH MACRON AND ACUTE
1E54 LATIN /CAPITAL LETTER P WITH ACUTE/SMALL LETTER P WITH ACUTE/CAPITAL LETTER P WITH DOT ABOVE
1E57 LATIN /SMALL LETTER P WITH DOT ABOVE/CAPITAL LETTER R WITH DOT ABOVE
1E59 LATIN /SMALL LETTER R WITH DOT ABOVE/CAPITAL LETTER R WITH DOT BELOW
1E5B LATIN /SMALL LETTER R WITH DOT BELOW/CAPITAL LETTER R WITH DOT BELOW AND MACRON
1E5D LATIN /SMALL LETTER R WITH DOT BELOW AND MACRON/CAPITAL LETTER R WITH LINE BELOW
1E5F LATIN /SMALL LETTER R WITH LINE BELOW/CAPITAL LETTER S WITH DOT ABOVE
1E61 LATIN /SMALL LETTER S WITH DOT ABOVE/CAPITAL LETTER S WITH DOT BELOW
1E63 LATIN /SMALL LETTER S WITH DOT BELOW/CAPITAL LETTER S WITH ACUTE AND DOT ABOVE
1E65 LATIN /SMALL LETTER S WITH ACUTE AND DOT ABOVE/CAPITAL LETTER S WITH CARON AND DOT ABOVE
1E67 LATIN /SMALL LETTER S WITH CARON AND DOT ABOVE/CAPITAL LETTER S WITH DOT BELOW AND DOT ABOVE
1E69 LATIN /SMALL LETTER S WITH DOT BELOW AND DOT ABOVE/CAPITAL LETTER T WITH DOT ABOVE
1E6B LATIN /SMALL LETTER T WITH DOT ABOVE/CAPITAL LETTER T WITH DOT BELOW
1E6D LATIN /SMALL LETTER T WITH DOT BELOW/CAPITAL LETTER T WITH LINE BELOW
1E6F LATIN /SMALL LETTER T WITH LINE BELOW/CAPITAL LETTER T WITH CIRCUMFLEX BELOW
1E71 LATIN /SMALL LETTER T WITH CIRCUMFLEX BELOW/CAPITAL LETTER U WITH DIAERESIS BELOW
1E73 LATIN /SMALL LETTER U WITH DIAERESIS BELOW/CAPITAL LETTER U WITH TILDE BELOW
1E75 LATIN /SMALL LETTER U WITH TILDE BELOW/CAPITAL LETTER U WITH CIRCUMFLEX BELOW
1E77 LATIN /SMALL LETTER U WITH CIRCUMFLEX BELOW/CAPITAL LETTER U WITH TILDE AND ACUTE
1E79 LATIN /SMALL LETTER U WITH TILDE AND ACUTE/CAPITAL LETTER U WITH MACRON AND DIAERESIS
1E7B LATIN /SMALL LETTER U WITH MACRON AND DIAERESIS/CAPITAL LETTER V WITH TILDE
1E7D LATIN /SMALL LETTER V WITH TILDE/CAPITAL LETTER V WITH DOT BELOW/SMALL LETTER V WITH DOT BELOW
1E80 LATIN /CAPITAL LETTER W WITH GRAVE/SMALL LETTER W WITH GRAVE/CAPITAL LETTER W WITH ACUTE
1E83 LATIN /SMALL LETTER W WITH ACUTE/CAPITAL LETTER W WITH DIAERESIS/SMALL LETTER W WITH DIAERESIS
1E86 LATIN /CAPITAL LETTER W WITH DOT ABOVE/SMALL LETTER W WITH DOT ABOVE
1E88 LATIN /CAPITAL LETTER W WITH DOT BELOW/SMALL LETTER W WITH DOT BELOW
1E8A LATIN /CAPITAL LETTER X WITH DOT ABOVE/SMALL LETTER X WITH DOT ABOVE
1E8C LATIN /CAPITAL LETTER X WITH DIAERESIS/SMALL LETTER X WITH DIAERESIS
1E8E LATIN /CAPITAL LETTER Y WITH DOT ABOVE/SMALL LETTER Y WITH DOT ABOVE
1E90 LATIN /CAPITAL LETTER Z WITH CIRCUMFLEX/SMALL LETTER Z WITH CIRCUMFLEX
1E92 LATIN /CAPITAL LETTER Z WITH DOT BELOW/SMALL LETTER Z WITH DOT BELOW
1E94 /LATIN CAPITAL LETTER Z WITH LINE BELOW
1E95 LATIN SMALL LETTER /Z WITH LINE BELOW/H WITH LINE BELOW/T WITH DIAERESIS/W WITH RING ABOVE
1E99 LATIN SMALL LETTER /Y WITH RING ABOVE/A WITH RIGHT HALF RING
1E9B LATIN SMALL LETTER LONG S WITH /DOT ABOVE/DIAGONAL STROKE/HIGH STROKE
1E9E LATIN /CAPITAL LETTER SHARP S/SMALL LETTER DELTA/CAPITAL LETTER A WITH DOT BELOW
1EA1 LATIN /SMALL LETTER A WITH DOT BELOW/CAPITAL LETTER A WITH HOOK ABOVE
1EA3 LATIN /SMALL LETTER A WITH HOOK ABOVE/CAPITAL LETTER A WITH CIRCUMFLEX AND ACUTE
1EA5 LATIN /SMALL LETTER A WITH CIRCUMFLEX AND ACUTE/CAPITAL LETTER A WITH CIRCUMFLEX AND GRAVE
1EA7 /LATIN SMALL LETTER A WITH CIRCUMFLEX AND GRAVE
1EA8 /LATIN CAPITAL LETTER A WITH CIRCUMFLEX AND HOOK ABOVE
1EA9 /LATIN SMALL LETTER A WITH CIRCUMFLEX AND HOOK ABOVE
1EAA LATIN /CAPITAL LETTER A WITH CIRCUMFLEX AND TILDE/SMALL LETTER A WITH CIRCUMFLEX AND TILDE
1EAC /LATIN CAPITAL LETTER A WITH CIRCUMFLEX AND DOT BELOW
1EAD LATIN /SMALL LETTER A WITH CIRCUMFLEX AND DOT BELOW/CAPITAL LETTER A WITH BREVE AND ACUTE
1EAF LATIN /SMALL LETTER A WITH BREVE AND ACUTE/CAPITAL LETTER A WITH BREVE AND GRAVE
1EB1 LATIN /SMALL LETTER A WITH BREVE AND GRAVE/CAPITAL LETTER A WITH BREVE AND HOOK ABOVE
1EB3 LATIN /SMALL LETTER A WITH BREVE AND HOOK ABOVE/CAPITAL LETTER A WITH BREVE AND TILDE
1EB5 LATIN /SMALL LETTER A WITH BREVE AND TILDE/CAPITAL LETTER A WITH BREVE AND DOT BELOW
1EB7 LATIN /SMALL LETTER A WITH BREVE AND DOT BELOW/CAPITAL LETTER E WITH DOT BELOW
1EB9 LATIN /SMALL LETTER E WITH DOT BELOW/CAPITAL LETTER E WITH HOOK ABOVE
1EBB LATIN /SMALL LETTER E WITH HOOK ABOVE/CAPITAL LETTER E WITH TILDE/SMALL LETTER E WITH TILDE
1EBE LATIN /CAPITAL LETTER E WITH CIRCUMFLEX AND ACUTE/SMALL LETTER E WITH CIRCUMFLEX AND ACUTE
1EC0 LATIN /CAPITAL LETTER E WITH CIRCUMFLEX AND GRAVE/SMALL LETTER E WITH CIRCUMFLEX AND GRAVE
1EC2 /LATIN CAPITAL LETTER E WITH CIRCUMFLEX AND HOOK ABOVE
1EC3 /LATIN SMALL LETTER E WITH CIRCUMFLEX AND HOOK ABOVE
1EC4 LATIN /CAPITAL LETTER E WITH CIRCUMFLEX AND TILDE/SMALL LETTER E WITH CIRCUMFLEX AND TILDE
1EC6 /LATIN CAPITAL LETTER E WITH CIRCUMFLEX AND DOT BELOW
1EC7 LATIN /SMALL LETTER E WITH CIRCUMFLEX AND DOT BELOW/CAPITAL LETTER I WITH HOOK ABOVE
1EC9 LATIN /SMALL LETTER I WITH HOOK ABOVE/CAPITAL LETTER I WITH DOT BELOW
1ECB LATIN /SMALL LETTER I WITH DOT BELOW/CAPITAL LETTER O WITH DOT BELOW
1ECD LATIN /SMALL LETTER O WITH DOT BELOW/CAPITAL LETTER O WITH HOOK ABOVE
1ECF LATIN /SMALL LETTER O WITH HOOK ABOVE/CAPITAL LETTER O WITH CIRCUMFLEX AND ACUTE
1ED1 LATIN /SMALL LETTER O WITH CIRCUMFLEX AND ACUTE/CAPITAL LETTER O WITH CIRCUMFLEX AND GRAVE
1ED3 /LATIN SMALL LETTER O WITH CIRCUMFLEX AND GRAVE
1ED4 /LATIN CAPITAL LETTER O WITH CIRCUMFLEX AND HOOK ABOVE
1ED5 /LATIN SMALL LETTER O WITH CIRCUMFLEX AND HOOK ABOVE
1ED6 LATIN /CAPITAL LETTER O WITH CIRCUMFLEX AND TILDE/SMALL LETTER O WITH CIRCUMFLEX AND TILDE
1ED8 /LATIN CAPITAL LETTER O WITH CIRCUMFLEX AND DOT BELOW
1ED9 LATIN /SMALL LETTER O WITH CIRCUMFLEX AND DOT BELOW/CAPITAL LETTER O WITH HORN AND ACUTE
1EDB LATIN /SMALL LETTER O WITH HORN AND ACUTE/CAPITAL LETTER O WITH HORN AND GRAVE
1EDD LATIN /SMALL LETTER O WITH HORN AND GRAVE/CAPITAL LETTER O WITH HORN AND HOOK ABOVE
1EDF LATIN /SMALL LETTER O WITH HORN AND HOOK ABOVE/CAPITAL LETTER O WITH HORN AND TILDE
1EE1 LATIN /SMALL LETTER O WITH HORN AND TILDE/CAPITAL LETTER O WITH HORN AND DOT BELOW
1EE3 LATIN /SMALL LETTER O WITH HORN AND DOT BELOW/CAPITAL LETTER U WITH DOT BELOW
1EE5 LATIN /SMALL LETTER U WITH DOT BELOW/CAPITAL LETTER U WITH HOOK ABOVE
1EE7 LATIN /SMALL LETTER U WITH HOOK ABOVE/CAPITAL LETTER U WITH HORN AND ACUTE
1EE9 LATIN /SMALL LETTER U WITH HORN AND ACUTE/CAPITAL LETTER U WITH HORN AND GRAVE
1EEB LATIN /SMALL LETTER U WITH HORN AND GRAVE/CAPITAL LETTER U WITH HORN AND HOOK ABOVE
1EED LATIN /SMALL LETTER U WITH HORN AND HOOK ABOVE/CAPITAL LETTER U WITH HORN AND TILDE
1EEF LATIN /SMALL LETTER U WITH HORN AND TILDE/CAPITAL LETTER U WITH HORN AND DOT BELOW
1EF1 LATIN /SMALL LETTER U WITH HORN AND DOT BELOW/CAPITAL LETTER Y WITH GRAVE
1EF3 LATIN /SMALL LETTER Y WITH GRAVE/CAPITAL LETTER Y WITH DOT BELOW/SMALL LETTER Y WITH DOT BELOW
1EF6 LATIN /CAPITAL LETTER Y WITH HOOK ABOVE/SMALL LETTER Y WITH HOOK ABOVE
1EF8 LATIN /CAPITAL LETTER Y WITH TILDE/SMALL LETTER Y WITH TILDE/CAPITAL LETTER MIDDLE-WELSH LL
1EFB LATIN /SMALL LETTER MIDDLE-WELSH LL/CAPITAL LETTER MIDDLE-WELSH V/SMALL LETTER MIDDLE-WELSH V
1EFE LATIN /CAPITAL LETTER Y WITH LOOP/SMALL LETTER Y WITH LOOP
1F00 GREEK SMALL LETTER ALPHA WITH /PSILI/DASIA/PSILI AND VARIA/DASIA AND VARIA/PSILI AND OXIA
1F05 GREEK SMALL LETTER ALPHA WITH /DASIA AND OXIA/PSILI AND PERISPOMENI/DASIA AND PERISPOMENI
1F08 GREEK CAPITAL LETTER ALPHA WITH /PSILI/DASIA/PSILI AND VARIA/DASIA AND VARIA/PSILI AND OXIA
1F0D GREEK CAPITAL LETTER ALPHA WITH /DASIA AND OXIA/PSILI AND PERISPOMENI/DASIA AND PERISPOMENI
1F10 GREEK SMALL LETTER EPSILON WITH /PSILI/DASIA/PSILI AND VARIA/DASIA AND VARIA/PSILI AND OXIA
1F15 /GREEK SMALL LETTER EPSILON WITH DASIA AND OXIA
1F18 GREEK CAPITAL LETTER EPSILON WITH /PSILI/DASIA/PSILI AND VARIA/DASIA AND VARIA/PSILI AND OXIA
1F1D /GREEK CAPITAL LETTER EPSILON WITH DASIA AND OXIA
1F20 GREEK SMALL LETTER ETA WITH /PSILI/DASIA/PSILI AND VARIA/DASIA AND VARIA/PSILI AND OXIA
1F25 GREEK SMALL LETTER ETA WITH /DASIA AND OXIA/PSILI AND PERISPOMENI/DASIA AND PERISPOMENI
1F28 GREEK CAPITAL LETTER ETA WITH /PSILI/DASIA/PSILI AND VARIA/DASIA AND VARIA/PSILI AND OXIA
1F2D GREEK CAPITAL LETTER ETA WITH /DASIA AND OXIA/PSILI AND PERISPOMENI/DASIA AND PERISPOMENI
1F30 GREEK SMALL LETTER IOTA WITH /PSILI/DASIA/PSILI AND VARIA/DASIA AND VARIA/PSILI AND OXIA
1F35 GREEK SMALL LETTER IOTA WITH /DASIA AND OXIA/PSILI AND PERISPOMENI/DASIA AND PERISPOMENI
1F38 GREEK CAPITAL LETTER IOTA WITH /PSILI/DASIA/PSILI AND VARIA/DASIA AND VARIA/PSILI AND OXIA
1F3D GREEK CAPITAL LETTER IOTA WITH /DASIA AND OXIA/PSILI AND PERISPOMENI/DASIA AND PERISPOMENI
1F40 GREEK SMALL LETTER OMICRON WITH /PSILI/DASIA/PSILI AND VARIA/DASIA AND VARIA/PSILI AND OXIA
1F45 /GREEK SMALL LETTER OMICRON WITH DASIA AND OXIA
1F48 GREEK CAPITAL LETTER OMICRON WITH /PSILI/DASIA/PSILI AND VARIA/DASIA AND VARIA/PSILI AND OXIA
1F4D /GREEK CAPITAL LETTER OMICRON WITH DASIA AND OXIA
1F50 GREEK SMALL LETTER UPSILON WITH /PSILI/DASIA/PSILI AND VARIA/DASIA AND VARIA/PSILI AND OXIA
1F55 GREEK SMALL LETTER UPSILON WITH /DASIA AND OXIA/PSILI AND PERISPOMENI/DASIA AND PERISPOMENI
1F59 /GREEK CAPITAL LETTER UPSILON WITH DASIA
1F5B /GREEK CAPITAL LETTER UPSILON WITH DASIA AND VARIA
1F5D /GREEK CAPITAL LETTER UPSILON WITH DASIA AND OXIA
1F5F /GREEK CAPITAL LETTER UPSILON WITH DASIA AND PERISPOMENI
1F60 GREEK SMALL LETTER OMEGA WITH /PSILI/DASIA/PSILI AND VARIA/DASIA AND VARIA/PSILI AND OXIA
1F65 GREEK SMALL LETTER OMEGA WITH /DASIA AND OXIA/PSILI AND PERISPOMENI/DASIA AND PERISPOMENI
1F68 GREEK CAPITAL LETTER OMEGA WITH /PSILI/DASIA/PSILI AND VARIA/DASIA AND VARIA/PSILI AND OXIA
1F6D GREEK CAPITAL LETTER OMEGA WITH /DASIA AND OXIA/PSILI AND PERISPOMENI/DASIA AND PERISPOMENI
1F70 GREEK SMALL LETTER /ALPHA WITH VARIA/ALPHA WITH OXIA/EPSILON WITH VARIA/EPSILON WITH OXIA
1F74 GREEK SMALL LETTER /ETA WITH VARIA/ETA WITH OXIA/IOTA WITH VARIA/IOTA WITH OXIA
1F78 GREEK SMALL LETTER OMICRON WITH /VARIA/OXIA
1F7A GREEK SMALL LETTER /UPSILON WITH VARIA/UPSILON WITH OXIA/OMEGA WITH VARIA/OMEGA WITH OXIA
1F80 GREEK SMALL LETTER ALPHA WITH /PSILI AND YPOGEGRAMMENI/DASIA AND YPOGEGRAMMENI
1F82 /GREEK SMALL LETTER ALPHA WITH PSILI AND VARIA AND YPOGEGRAMMENI
1F83 /GREEK SMALL LETTER ALPHA WITH DASIA AND VARIA AND YPOGEGRAMMENI
1F84 /GREEK SMALL LETTER ALPHA WITH PSILI AND OXIA AND YPOGEGRAMMENI
1F85 /GREEK SMALL LETTER ALPHA WITH DASIA AND OXIA AND YPOGEGRAMMENI
1F86 /GREEK SMALL LETTER ALPHA WITH PSILI AND PERISPOMENI AND YPOGEGRAMMENI
1F87 /GREEK SMALL LETTER ALPHA WITH DASIA AND PERISPOMENI AND YPOGEGRAMMENI
1F88 GREEK CAPITAL LETTER ALPHA WITH /PSILI AND PROSGEGRAMMENI/DASIA AND PROSGEGRAMMENI
1F8A /GREEK CAPITAL LETTER ALPHA WITH PSILI AND VARIA AND PROSGEGRAMMENI
1F8B /GREEK CAPITAL LETTER ALPHA WITH DASIA AND VARIA AND PROSGEGRAMMENI
1F8C /GREEK CAPITAL LETTER ALPHA WITH PSILI AND OXIA AND PROSGEGRAMMENI
1F8D /GREEK CAPITAL LETTER ALPHA WITH DASIA AND OXIA AND PROSGEGRAMMENI
1F8E /GREEK CAPITAL LETTER ALPHA WITH PSILI AND PERISPOMENI AND PROSGEGRAMMENI
1F8F /GREEK CAPITAL LETTER ALPHA WITH DASIA AND PERISPOMENI AND PROSGEGRAMMENI
1F90 GREEK SMALL LETTER ETA WITH /PSILI AND YPOGEGRAMMENI/DASIA AND YPOGEGRAMMENI
1F92 /GREEK SMALL LETTER ETA WITH PSILI AND VARIA AND YPOGEGRAMMENI
1F93 /GREEK SMALL LETTER ETA WITH DASIA AND VARIA AND YPOGEGRAMMENI
1F94 GREEK SMALL LETTER ETA WITH /PSILI AND OXIA AND YPOGEGRAMMENI/DASIA AND OXIA AND YPOGEGRAMMENI
1F96 /GREEK SMALL LETTER ETA WITH PSILI AND PERISPOMENI AND YPOGEGRAMMENI
1F97 /GREEK SMALL LETTER ETA WITH DASIA AND PERISPOMENI AND YPOGEGRAMMENI
1F98 GREEK CAPITAL LETTER ETA WITH /PSILI AND PROSGEGRAMMENI/DASIA AND PROSGEGRAMMENI
1F9A /GREEK CAPITAL LETTER ETA WITH PSILI AND VARIA AND PROSGEGRAMMENI
1F9B /GREEK CAPITAL LETTER ETA WITH DASIA AND VARIA AND PROSGEGRAMMENI
1F9C /GREEK CAPITAL LETTER ETA WITH PSILI AND OXIA AND PROSGEGRAMMENI
1F9D /GREEK CAPITAL LETTER ETA WITH DASIA AND OXIA AND PROSGEGRAMMENI
1F9E /GREEK CAPITAL LETTER ETA WITH PSILI AND PERISPOMENI AND PROSGEGRAMMENI
1F9F /GREEK CAPITAL LETTER ETA WITH DASIA AND PERISPOMENI AND PROSGEGRAMMENI
1FA0 GREEK SMALL LETTER OMEGA WITH /PSILI AND YPOGEGRAMMENI/DASIA AND YPOGEGRAMMENI
1FA2 /GREEK SMALL LETTER OMEGA WITH PSILI AND VARIA AND YPOGEGRAMMENI
1FA3 /GREEK SMALL LETTER OMEGA WITH DASIA AND VARIA AND YPOGEGRAMMENI
1FA4 /GREEK SMALL LETTER OMEGA WITH PSILI AND OXIA AND YPOGEGRAMMENI
1FA5 /GREEK SMALL LETTER OMEGA WITH DASIA AND OXIA AND YPOGEGRAMMENI
1FA6 /GREEK SMALL LETTER OMEGA WITH PSILI AND PERISPOMENI AND YPOGEGRAMMENI
1FA7 /GREEK SMALL LETTER OMEGA WITH DASIA AND PERISPOMENI AND YPOGEGRAMMENI
1FA8 GREEK CAPITAL LETTER OMEGA WITH /PSILI AND PROSGEGRAMMENI/DASIA AND PROSGEGRAMMENI
1FAA /GREEK CAPITAL LETTER OMEGA WITH PSILI AND VARIA AND PROSGEGRAMMENI
1FAB /GREEK CAPITAL LETTER OMEGA WITH DASIA AND VARIA AND PROSGEGRAMMENI
1FAC /GREEK CAPITAL LETTER OMEGA WITH PSILI AND OXIA AND PROSGEGRAMMENI
1FAD /GREEK CAPITAL LETTER OMEGA WITH DASIA AND OXIA AND PROSGEGRAMMENI
1FAE /GREEK CAPITAL LETTER OMEGA WITH PSILI AND PERISPOMENI AND PROSGEGRAMMENI
1FAF /GREEK CAPITAL LETTER OMEGA WITH DASIA AND PERISPOMENI AND PROSGEGRAMMENI
1FB0 GREEK SMALL LETTER ALPHA WITH /VRACHY/MACRON/VARIA AND YPOGEGRAMMENI/YPOGEGRAMMENI
1FB4 /GREEK SMALL LETTER ALPHA WITH OXIA AND YPOGEGRAMMENI
1FB6 GREEK SMALL LETTER ALPHA WITH /PERISPOMENI/PERISPOMENI AND YPOGEGRAMMENI
1FB8 GREEK CAPITAL LETTER ALPHA WITH /VRACHY/MACRON/VARIA/OXIA/PROSGEGRAMMENI
1FBD GREEK /KORONIS/PROSGEGRAMMENI/PSILI/PERISPOMENI/DIALYTIKA AND PERISPOMENI
1FC2 GREEK SMALL LETTER ETA WITH /VARIA AND YPOGEGRAMMENI/YPOGEGRAMMENI/OXIA AND YPOGEGRAMMENI
1FC6 GREEK SMALL LETTER ETA WITH /PERISPOMENI/PERISPOMENI AND YPOGEGRAMMENI
1FC8 GREEK CAPITAL LETTER EPSILON WITH /VARIA/OXIA
1FCA GREEK CAPITAL LETTER ETA WITH /VARIA/OXIA/PROSGEGRAMMENI
1FCD GREEK PSILI AND /VARIA/OXIA/PERISPOMENI
1FD0 GREEK SMALL LETTER IOTA WITH /VRACHY/MACRON/DIALYTIKA AND VARIA/DIALYTIKA AND OXIA
1FD6 GREEK SMALL LETTER IOTA WITH /PERISPOMENI/DIALYTIKA AND PERISPOMENI
1FD8 GREEK CAPITAL LETTER IOTA WITH /VRACHY/MACRON/VARIA/OXIA
1FDD GREEK DASIA AND /VARIA/OXIA/PERISPOMENI
1FE0 GREEK SMALL LETTER UPSILON WITH /VRACHY/MACRON/DIALYTIKA AND VARIA/DIALYTIKA AND OXIA
1FE4 GREEK SMALL LETTER RHO WITH /PSILI/DASIA
1FE6 GREEK SMALL LETTER UPSILON WITH /PERISPOMENI/DIALYTIKA AND PERISPOMENI
1FE8 GREEK CAPITAL LETTER UPSILON WITH /VRACHY/MACRON/VARIA/OXIA
1FEC GREEK /CAPITAL LETTER RHO WITH DASIA/DIALYTIKA AND VARIA/DIALYTIKA AND OXIA/VARIA
1FF2 GREEK SMALL LETTER OMEGA WITH /VARIA AND YPOGEGRAMMENI/YPOGEGRAMMENI/OXIA AND YPOGEGRAMMENI
1FF6 GREEK SMALL LETTER OMEGA WITH /PERISPOMENI/PERISPOMENI AND YPOGEGRAMMENI
1FF8 GREEK CAPITAL LETTER OMICRON WITH /VARIA/OXIA
1FFA GREEK CAPITAL LETTER OMEGA WITH /VARIA/OXIA/PROSGEGRAMMENI
1FFD GREEK /OXIA/DASIA"

end NoteSchema.Text.CharName
