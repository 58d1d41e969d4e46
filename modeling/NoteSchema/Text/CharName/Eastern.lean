namespace NoteSchema.Text.CharName

/-- Letters and signs from the Hebrew script to the Ol Chiki script. -/
def eastern : String :=
"591 HEBREW ACCENT /ETNAHTA/SEGOL/SHALSHELET/ZAQEF QATAN/ZAQEF GADOL/TIPEHA/REVIA/ZARQA/PASHTA/YETIV
59B HEBREW ACCENT /TEVIR/GERESH/GERESH MUQDAM/GERSHAYIM/QARNEY PARA/TELISHA GEDOLA/PAZER
5A2 HEBREW ACCENT /ATNAH HAFUKH/MUNAH/MAHAPAKH/MERKHA/MERKHA KEFULA/DARGA/QADMA/TELISHA QETANA
5AA HEBREW ACCENT /YERAH BEN YOMO/OLE/ILUY/DEHI/ZINOR
5AF /HEBREW MARK MASORA CIRCLE
5B0 HEBREW POINT /SHEVA/HATAF SEGOL/HATAF PATAH/HATAF QAMATS/HIRIQ/TSERE/SEGOL/PATAH/QAMATS/HOLAM
5BA HEBREW POINT /HOLAM HASER FOR VAV/QUBUTS/DAGESH OR MAPIQ/METEG
5BE HEBREW /PUNCTUATION MAQAF/POINT RAFE/PUNCTUATION PASEQ/POINT SHIN DOT/POINT SIN DOT
5C3 HEBREW /PUNCTUATION SOF PASUQ/MARK UPPER DOT/MARK LOWER DOT/PUNCTUATION NUN HAFUKHA
5C7 /HEBREW POINT QAMATS QATAN
5D0 HEBREW LETTER /ALEF/BET/GIMEL/DALET/HE/VAV/ZAYIN/HET/TET/YOD/FINAL KAF/KAF/LAMED/FINAL MEM/MEM
5DF HEBREW LETTER /FINAL NUN/NUN/SAMEKH/AYIN/FINAL PE/PE/FINAL TSADI/TSADI/QOF/RESH/SHIN/TAV
5EF /HEBREW YOD TRIANGLE
5F0 HEBREW LIGATURE YIDDISH /DOUBLE VAV/VAV YOD/DOUBLE YOD
5F3 HEBREW PUNCTUATION /GERESH/GERSHAYIM
600 ARABIC /NUMBER SIGN/SIGN SANAH/FOOTNOTE MARKER/SIGN SAFHA/SIGN SAMVAT/NUMBER MARK ABOVE
606 ARABIC-INDIC /CUBE ROOT/FOURTH ROOT
608 /ARABIC RAY
609 ARABIC-INDIC PER /MILLE SIGN/TEN THOUSAND SIGN
60B /AFGHANI SIGN
60C ARABIC /COMMA/DATE SEPARATOR/POETIC VERSE SIGN/SIGN MISRA/SIGN SALLALLAHOU ALAYHE WASSALLAM
611 ARABIC SIGN /ALAYHE ASSALLAM/RAHMATULLAH ALAYHE/RADI ALLAHOU ANHU/TAKHALLUS
615 ARABIC SMALL /HIGH TAH/HIGH LIGATURE ALEF WITH LAM WITH YEH/HIGH ZAIN/FATHA/DAMMA/KASRA
61B ARABIC /SEMICOLON/LETTER MARK/END OF TEXT MARK/TRIPLE DOT PUNCTUATION MARK/QUESTION MARK
620 ARABIC LETTER /KASHMIRI YEH/HAMZA/ALEF WITH MADDA ABOVE/ALEF WITH HAMZA ABOVE
624 ARABIC LETTER /WAW WITH HAMZA ABOVE/ALEF WITH HAMZA BELOW/YEH WITH HAMZA ABOVE/ALEF/BEH
629 ARABIC LETTER /TEH MARBUTA/TEH/THEH/JEEM/HAH/KHAH/DAL/THAL/REH/ZAIN/SEEN/SHEEN/SAD/DAD/TAH/ZAH
639 ARABIC LETTER /AIN/GHAIN/KEHEH WITH TWO DOTS ABOVE/KEHEH WITH THREE DOTS BELOW
63D ARABIC LETTER FARSI YEH WITH /INVERTED V/TWO DOTS ABOVE/THREE DOTS ABOVE
640 /ARABIC TATWEEL
641 ARABIC LETTER /FEH/QAF/KAF/LAM/MEEM/NOON/HEH/WAW/ALEF MAKSURA/YEH
64B ARABIC /FATHATAN/DAMMATAN/KASRATAN/FATHA/DAMMA/KASRA/SHADDA/SUKUN/MADDAH ABOVE/HAMZA ABOVE
655 ARABIC /HAMZA BELOW/SUBSCRIPT ALEF/INVERTED DAMMA/MARK NOON GHUNNA/ZWARAKAY
65A ARABIC VOWEL SIGN /SMALL V ABOVE/INVERTED SMALL V ABOVE/DOT BELOW
65D ARABIC /REVERSED DAMMA/FATHA WITH TWO DOTS/WAVY HAMZA BELOW
660 ARABIC-INDIC DIGIT /ZERO/ONE/TWO/THREE/FOUR/FIVE/SIX/SEVEN/EIGHT/NINE
66A ARABIC /PERCENT SIGN/DECIMAL SEPARATOR/THOUSANDS SEPARATOR/FIVE POINTED STAR
66E ARABIC LETTER /DOTLESS BEH/DOTLESS QAF/SUPERSCRIPT ALEF/ALEF WASLA
672 ARABIC LETTER ALEF WITH WAVY HAMZA /ABOVE/BELOW
674 ARABIC LETTER /HIGH HAMZA/HIGH HAMZA ALEF/HIGH HAMZA WAW/U WITH HAMZA ABOVE/HIGH HAMZA YEH/TTEH
67A ARABIC LETTER /TTEHEH/BEEH/TEH WITH RING/TEH WITH THREE DOTS ABOVE DOWNWARDS/PEH/TEHEH/BEHEH
681 ARABIC LETTER HAH WITH /HAMZA ABOVE/TWO DOTS VERTICAL ABOVE
683 ARABIC LETTER /NYEH/DYEH/HAH WITH THREE DOTS ABOVE/TCHEH/TCHEHEH/DDAL
689 ARABIC LETTER DAL WITH /RING/DOT BELOW/DOT BELOW AND SMALL TAH
68C ARABIC LETTER /DAHAL/DDAHAL/DUL/DAL WITH THREE DOTS ABOVE DOWNWARDS/DAL WITH FOUR DOTS ABOVE
691 ARABIC LETTER /RREH/REH WITH SMALL V
693 ARABIC LETTER REH WITH /RING/DOT BELOW/SMALL V BELOW/DOT BELOW AND DOT ABOVE/TWO DOTS ABOVE
698 ARABIC LETTER /JEH/REH WITH FOUR DOTS ABOVE/SEEN WITH DOT BELOW AND DOT ABOVE
69B ARABIC LETTER SEEN WITH THREE DOTS /BELOW/BELOW AND THREE DOTS ABOVE
69D ARABIC LETTER SAD WITH /TWO DOTS BELOW/THREE DOTS ABOVE
69F ARABIC LETTER /TAH WITH THREE DOTS ABOVE/AIN WITH THREE DOTS ABOVE/DOTLESS FEH
6A2 ARABIC LETTER FEH WITH DOT /MOVED BELOW/BELOW
6A4 ARABIC LETTER /VEH/FEH WITH THREE DOTS BELOW/PEHEH/QAF WITH DOT ABOVE/QAF WITH THREE DOTS ABOVE
6A9 ARABIC LETTER /KEHEH/SWASH KAF/KAF WITH RING/KAF WITH DOT ABOVE/NG/KAF WITH THREE DOTS BELOW
6AF ARABIC LETTER /GAF/GAF WITH RING/NGOEH/GAF WITH TWO DOTS BELOW/GUEH/GAF WITH THREE DOTS ABOVE
6B5 ARABIC LETTER LAM WITH /SMALL V/DOT ABOVE/THREE DOTS ABOVE/THREE DOTS BELOW
6B9 ARABIC LETTER /NOON WITH DOT BELOW/NOON GHUNNA/RNOON/NOON WITH RING/NOON WITH THREE DOTS ABOVE
6BE ARABIC LETTER /HEH DOACHASHMEE/TCHEH WITH DOT ABOVE/HEH WITH YEH ABOVE/HEH GOAL
6C2 ARABIC LETTER /HEH GOAL WITH HAMZA ABOVE/TEH MARBUTA GOAL/WAW WITH RING/KIRGHIZ OE/OE/U/YU
6C9 ARABIC LETTER /KIRGHIZ YU/WAW WITH TWO DOTS ABOVE/VE/FARSI YEH/YEH WITH TAIL/YEH WITH SMALL V
6CF ARABIC LETTER /WAW WITH DOT ABOVE/E/YEH WITH THREE DOTS BELOW/YEH BARREE
6D3 ARABIC /LETTER YEH BARREE WITH HAMZA ABOVE/FULL STOP/LETTER AE
6D6 ARABIC SMALL HIGH LIGATURE /SAD WITH LAM WITH ALEF MAKSURA/QAF WITH LAM WITH ALEF MAKSURA
6D8 ARABIC SMALL HIGH /MEEM INITIAL FORM/LAM ALEF/JEEM/THREE DOTS/SEEN
6DD ARABIC /END OF AYAH/START OF RUB EL HIZB
6DF ARABIC SMALL HIGH /ROUNDED ZERO/UPRIGHT RECTANGULAR ZERO/DOTLESS HEAD OF KHAH
6E2 ARABIC SMALL /HIGH MEEM ISOLATED FORM/LOW SEEN/HIGH MADDA/WAW/YEH/HIGH YEH/HIGH NOON
6E9 /ARABIC PLACE OF SAJDAH
6EA ARABIC EMPTY CENTRE /LOW STOP/HIGH STOP
6EC ARABIC /ROUNDED HIGH STOP WITH FILLED CENTRE/SMALL LOW MEEM
6EE ARABIC LETTER /DAL WITH INVERTED V/REH WITH INVERTED V
6F0 EXTENDED ARABIC-INDIC DIGIT /ZERO/ONE/TWO/THREE/FOUR/FIVE/SIX/SEVEN/EIGHT/NINE
6FA ARABIC LETTER /SHEEN WITH DOT BELOW/DAD WITH DOT BELOW/GHAIN WITH DOT BELOW
6FD ARABIC SIGN SINDHI /AMPERSAND/POSTPOSITION MEN
6FF /ARABIC LETTER HEH WITH INVERTED V
700 SYRIAC /END OF PARAGRAPH/SUPRALINEAR FULL STOP/SUBLINEAR FULL STOP/SUPRALINEAR COLON
704 SYRIAC /SUBLINEAR COLON/HORIZONTAL COLON
706 SYRIAC COLON SKEWED /LEFT/RIGHT
708 SYRIAC /SUPRALINEAR COLON SKEWED LEFT/SUBLINEAR COLON SKEWED RIGHT/CONTRACTION
70B SYRIAC HARKLEAN /OBELUS/METOBELUS/ASTERISCUS
70F /SYRIAC ABBREVIATION MARK
710 SYRIAC LETTER /ALAPH/SUPERSCRIPT ALAPH/BETH/GAMAL/GAMAL GARSHUNI/DALATH/DOTLESS DALATH RISH/HE
718 SYRIAC LETTER /WAW/ZAIN/HETH/TETH/TETH GARSHUNI/YUDH/YUDH HE/KAPH/LAMADH/MIM/NUN/SEMKATH
724 SYRIAC LETTER /FINAL SEMKATH/E/PE/REVERSED PE/SADHE/QAPH/RISH/SHIN/TAW
72D SYRIAC LETTER PERSIAN /BHETH/GHAMAL/DHALATH
730 SYRIAC PTHAHA /ABOVE/BELOW/DOTTED
733 SYRIAC ZQAPHA /ABOVE/BELOW/DOTTED
736 SYRIAC RBASA /ABOVE/BELOW
738 SYRIAC DOTTED ZLAMA /HORIZONTAL/ANGULAR
73A SYRIAC HBASA /ABOVE/BELOW
73C SYRIAC /HBASA-ESASA DOTTED/ESASA ABOVE/ESASA BELOW/RWAHA/FEMININE DOT/QUSHSHAYA/RUKKAKHA
743 SYRIAC TWO VERTICAL DOTS /ABOVE/BELOW
745 SYRIAC THREE DOTS /ABOVE/BELOW
747 SYRIAC OBLIQUE LINE /ABOVE/BELOW
749 SYRIAC /MUSIC/BARREKH
74D SYRIAC LETTER SOGDIAN /ZHAIN/KHAPH/FE
750 ARABIC LETTER BEH WITH /THREE DOTS HORIZONTALLY BELOW/DOT BELOW AND THREE DOTS ABOVE
752 ARABIC LETTER BEH WITH THREE DOTS POINTING UPWARDS /BELOW/BELOW AND TWO DOTS ABOVE
754 ARABIC LETTER BEH WITH /TWO DOTS BELOW AND DOT ABOVE/INVERTED SMALL V BELOW/SMALL V
757 ARABIC LETTER HAH WITH /TWO DOTS ABOVE/THREE DOTS POINTING UPWARDS BELOW
759 ARABIC LETTER DAL WITH /TWO DOTS VERTICALLY BELOW AND SMALL TAH/INVERTED SMALL V BELOW
75B ARABIC LETTER /REH WITH STROKE/SEEN WITH FOUR DOTS ABOVE/AIN WITH TWO DOTS ABOVE
75E ARABIC LETTER AIN WITH /THREE DOTS POINTING DOWNWARDS ABOVE/TWO DOTS VERTICALLY ABOVE
760 ARABIC LETTER FEH WITH /TWO DOTS BELOW/THREE DOTS POINTING UPWARDS BELOW
762 ARABIC LETTER KEHEH WITH /DOT ABOVE/THREE DOTS ABOVE/THREE DOTS POINTING UPWARDS BELOW
765 ARABIC LETTER MEEM WITH DOT /ABOVE/BELOW
767 ARABIC LETTER NOON WITH /TWO DOTS BELOW/SMALL TAH/SMALL V
76A ARABIC LETTER /LAM WITH BAR/REH WITH TWO DOTS VERTICALLY ABOVE/REH WITH HAMZA ABOVE
76D /ARABIC LETTER SEEN WITH TWO DOTS VERTICALLY ABOVE
76E ARABIC LETTER HAH WITH SMALL ARABIC LETTER TAH /BELOW/AND TWO DOTS
770 /ARABIC LETTER SEEN WITH SMALL ARABIC LETTER TAH AND TWO DOTS
771 /ARABIC LETTER REH WITH SMALL ARABIC LETTER TAH AND TWO DOTS
772 /ARABIC LETTER HAH WITH SMALL ARABIC LETTER TAH ABOVE
773 ARABIC LETTER ALEF WITH EXTENDED ARABIC-INDIC DIGIT /TWO ABOVE/THREE ABOVE
775 ARABIC LETTER FARSI YEH WITH EXTENDED ARABIC-INDIC DIGIT /TWO ABOVE/THREE ABOVE/FOUR BELOW
778 ARABIC LETTER WAW WITH EXTENDED ARABIC-INDIC DIGIT /TWO ABOVE/THREE ABOVE
77A ARABIC LETTER YEH BARREE WITH EXTENDED ARABIC-INDIC DIGIT /TWO ABOVE/THREE ABOVE
77C /ARABIC LETTER HAH WITH EXTENDED ARABIC-INDIC DIGIT FOUR BELOW
77D ARABIC LETTER SEEN WITH /EXTENDED ARABIC-INDIC DIGIT FOUR ABOVE/INVERTED V
77F /ARABIC LETTER KAF WITH TWO DOTS ABOVE
780 THAANA LETTER /HAA/SHAVIYANI/NOONU/RAA/BAA/LHAVIYANI/KAAFU/ALIFU/VAAVU/MEEMU/FAAFU/DHAALU/THAA
78D THAANA LETTER /LAAMU/GAAFU/GNAVIYANI/SEENU/DAVIYANI/ZAVIYANI/TAVIYANI/YAA/PAVIYANI/JAVIYANI
797 THAANA LETTER /CHAVIYANI/TTAA/HHAA/KHAA/THAALU/ZAA/SHEENU/SAADHU/DAADHU/TO/ZO/AINU/GHAINU/QAAFU
7A5 THAANA /LETTER WAAVU/ABAFILI/AABAAFILI/IBIFILI/EEBEEFILI/UBUFILI/OOBOOFILI/EBEFILI/EYBEYFILI
7AE THAANA /OBOFILI/OABOAFILI/SUKUN/LETTER NAA
7C0 NKO DIGIT /ZERO/ONE/TWO/THREE/FOUR/FIVE/SIX/SEVEN/EIGHT/NINE
7CA NKO LETTER /A/EE/I/E/U/OO/O/DAGBASINNA/N/BA/PA/TA/JA/CHA/DA/RA/RRA/SA/GBA/FA/KA/LA/NA WOLOSO/MA
7E2 NKO LETTER /NYA/NA/HA/WA/YA/NYA WOLOSO/JONA JA/JONA CHA/JONA RA
7EB NKO COMBINING SHORT /HIGH TONE/LOW TONE/RISING TONE
7EE NKO COMBINING LONG /DESCENDING TONE/HIGH TONE/LOW TONE/RISING TONE
7F2 NKO COMBINING /NASALIZATION MARK/DOUBLE DOT ABOVE
7F4 NKO /HIGH TONE APOSTROPHE/LOW TONE APOSTROPHE/SYMBOL OO DENNEN/SYMBOL GBAKURUNEN/COMMA
7F9 NKO /EXCLAMATION MARK/LAJANYALAN
7FD NKO /DANTAYALAN/DOROME SIGN/TAMAN SIGN
800 SAMARITAN LETTER /ALAF/BIT/GAMAN/DALAT/IY/BAA/ZEN/IT/TIT/YUT/KAAF/LABAT/MIM/NUN/SINGAAT/IN/FI
811 SAMARITAN LETTER /TSAADIY/QUF/RISH/SHAN/TAAF
816 SAMARITAN MARK /IN/IN-ALAF/OCCLUSION/DAGESH
81A SAMARITAN /MODIFIER LETTER EPENTHETIC YUT/MARK EPENTHETIC YUT
81C SAMARITAN VOWEL SIGN /LONG E/E/OVERLONG AA/LONG AA/AA/OVERLONG A/LONG A/A
824 /SAMARITAN MODIFIER LETTER SHORT A
825 SAMARITAN VOWEL SIGN /SHORT A/LONG U/U
828 /SAMARITAN MODIFIER LETTER I
829 SAMARITAN VOWEL SIGN /LONG I/I/O/SUKUN
82D /SAMARITAN MARK NEQUDAA
830 SAMARITAN PUNCTUATION /NEQUDAA/AFSAAQ/ANGED/BAU/ATMAAU/SHIYYAALAA
836 /SAMARITAN ABBREVIATION MARK
837 SAMARITAN PUNCTUATION /MELODIC QITSA/ZIQAA/QITSA/ZAEF/TURU/ARKAANU/SOF MASHFAAT/ANNAAU
840 MANDAIC LETTER /HALQA/AB/AG/AD/AH/USHENNA/AZ/IT/ATT/AKSA/AK/AL/AM/AN/AS/IN/AP/ASZ/AQ/AR/ASH/AT
856 MANDAIC LETTER /DUSHENNA/KAD/AIN
859 MANDAIC /AFFRICATION MARK/VOCALIZATION MARK/GEMINATION MARK
85E /MANDAIC PUNCTUATION
860 SYRIAC LETTER MALAYALAM /NGA/JA/NYA/TTA/NNA/NNNA/BHA/RA/LLA/LLLA/SSA
870 ARABIC LETTER ALEF WITH ATTACHED /FATHA/TOP RIGHT FATHA
872 ARABIC LETTER ALEF WITH /RIGHT MIDDLE STROKE/LEFT MIDDLE STROKE
874 ARABIC LETTER ALEF WITH ATTACHED /KASRA/BOTTOM RIGHT KASRA/ROUND DOT ABOVE/RIGHT ROUND DOT
878 ARABIC LETTER ALEF WITH ATTACHED /LEFT ROUND DOT/ROUND DOT BELOW
87A ARABIC LETTER ALEF WITH /DOT ABOVE/ATTACHED TOP RIGHT FATHA AND DOT ABOVE
87C /ARABIC LETTER ALEF WITH RIGHT MIDDLE STROKE AND DOT ABOVE
87D /ARABIC LETTER ALEF WITH ATTACHED BOTTOM RIGHT KASRA AND DOT ABOVE
87E /ARABIC LETTER ALEF WITH ATTACHED TOP RIGHT FATHA AND LEFT RING
87F /ARABIC LETTER ALEF WITH RIGHT MIDDLE STROKE AND LEFT RING
880 ARABIC LETTER ALEF WITH ATTACHED /BOTTOM RIGHT KASRA AND LEFT RING/RIGHT HAMZA/LEFT HAMZA
883 ARABIC TATWEEL WITH /OVERSTRUCK HAMZA/OVERSTRUCK WAW/TWO DOTS BELOW
886 ARABIC /LETTER THIN YEH/BASELINE ROUND DOT/RAISED ROUND DOT/LETTER NOON WITH INVERTED SMALL V
88A ARABIC LETTER /HAH WITH INVERTED SMALL V BELOW/TAH WITH DOT BELOW/TAH WITH THREE DOTS BELOW
88D ARABIC /LETTER KEHEH WITH TWO DOTS VERTICALLY BELOW/VERTICAL TAIL
890 ARABIC /POUND MARK ABOVE/PIASTRE MARK ABOVE
898 /ARABIC SMALL HIGH WORD AL-JUZ
899 ARABIC SMALL LOW WORD /ISHMAAM/IMAALA/TASHEEL
89C ARABIC /MADDA WAAJIB/SUPERSCRIPT ALEF MOKHASSAS/DOUBLED MADDA/HALF MADDA OVER MADDA
8A0 ARABIC LETTER /BEH WITH SMALL V BELOW/BEH WITH HAMZA ABOVE/JEEM WITH TWO DOTS ABOVE
8A3 ARABIC LETTER /TAH WITH TWO DOTS ABOVE/FEH WITH DOT BELOW AND THREE DOTS ABOVE
8A5 ARABIC LETTER /QAF WITH DOT BELOW/LAM WITH DOUBLE BAR/MEEM WITH THREE DOTS ABOVE
8A8 ARABIC LETTER YEH WITH TWO DOTS BELOW AND /HAMZA ABOVE/DOT ABOVE
8AA ARABIC LETTER /REH WITH LOOP/WAW WITH DOT WITHIN/ROHINGYA YEH/LOW ALEF
8AE ARABIC LETTER /DAL WITH THREE DOTS BELOW/SAD WITH THREE DOTS BELOW/GAF WITH INVERTED STROKE
8B1 ARABIC LETTER /STRAIGHT WAW/ZAIN WITH INVERTED V ABOVE/AIN WITH THREE DOTS BELOW
8B4 ARABIC LETTER /KAF WITH DOT BELOW/QAF WITH DOT BELOW AND NO DOTS ABOVE
8B6 ARABIC LETTER /BEH WITH SMALL MEEM ABOVE/PEH WITH SMALL MEEM ABOVE/TEH WITH SMALL TEH ABOVE
8B9 ARABIC LETTER /REH WITH SMALL NOON ABOVE/YEH WITH TWO DOTS BELOW AND SMALL NOON ABOVE
8BB ARABIC LETTER AFRICAN /FEH/QAF/NOON
8BE ARABIC LETTER /PEH WITH SMALL V/TEH WITH SMALL V/TTEH WITH SMALL V/TCHEH WITH SMALL V
8C2 ARABIC LETTER /KEHEH WITH SMALL V/GHAIN WITH THREE DOTS ABOVE/AFRICAN QAF WITH THREE DOTS ABOVE
8C5 ARABIC LETTER JEEM WITH THREE DOTS /ABOVE/BELOW
8C7 ARABIC /LETTER LAM WITH SMALL ARABIC LETTER TAH ABOVE/LETTER GRAF/SMALL FARSI YEH
8CA ARABIC SMALL HIGH /FARSI YEH/YEH BARREE WITH TWO DOTS BELOW/WORD SAH/ZAH
8CE ARABIC LARGE ROUND DOT /ABOVE/BELOW
8D0 ARABIC /SUKUN BELOW/LARGE CIRCLE BELOW/LARGE ROUND DOT INSIDE CIRCLE BELOW/SMALL LOW WAW
8D4 ARABIC SMALL HIGH /WORD AR-RUB/SAD/AIN/QAF/NOON WITH KASRA
8D9 /ARABIC SMALL LOW NOON WITH KASRA
8DA ARABIC SMALL HIGH WORD /ATH-THALATHA/AS-SAJDA/AN-NISF/SAKTA/QIF/WAQFA
8E0 ARABIC SMALL HIGH /FOOTNOTE MARKER/SIGN SAFHA
8E2 ARABIC /DISPUTED END OF AYAH/TURNED DAMMA BELOW
8E4 ARABIC CURLY /FATHA/DAMMA/KASRA/FATHATAN/DAMMATAN/KASRATAN
8EA ARABIC TONE /ONE DOT ABOVE/TWO DOTS ABOVE/LOOP ABOVE/ONE DOT BELOW/TWO DOTS BELOW/LOOP BELOW
8F0 ARABIC OPEN /FATHATAN/DAMMATAN/KASRATAN
8F3 ARABIC /SMALL HIGH WAW/FATHA WITH RING/FATHA WITH DOT ABOVE/KASRA WITH DOT BELOW
8F7 ARABIC /LEFT ARROWHEAD ABOVE/RIGHT ARROWHEAD ABOVE/LEFT ARROWHEAD BELOW/RIGHT ARROWHEAD BELOW
8FB ARABIC DOUBLE RIGHT ARROWHEAD /ABOVE/ABOVE WITH DOT
8FD ARABIC /RIGHT ARROWHEAD ABOVE WITH DOT/DAMMA WITH DOT/MARK SIDEWAYS NOON GHUNNA
900 DEVANAGARI SIGN /INVERTED CANDRABINDU/CANDRABINDU/ANUSVARA/VISARGA
904 DEVANAGARI LETTER /SHORT A/A/AA/I/II/U/UU/VOCALIC R/VOCALIC L/CANDRA E/SHORT E/E/AI/CANDRA O
912 DEVANAGARI LETTER /SHORT O/O/AU/KA/KHA/GA/GHA/NGA/CA/CHA/JA/JHA/NYA/TTA/TTHA/DDA/DDHA/NNA/TA
925 DEVANAGARI LETTER /THA/DA/DHA/NA/NNNA/PA/PHA/BA/BHA/MA/YA/RA/RRA/LA/LLA/LLLA/VA/SHA/SSA/SA/HA
93A DEVANAGARI /VOWEL SIGN OE/VOWEL SIGN OOE/SIGN NUKTA/SIGN AVAGRAHA/VOWEL SIGN AA/VOWEL SIGN I
940 DEVANAGARI VOWEL SIGN /II/U/UU/VOCALIC R/VOCALIC RR/CANDRA E/SHORT E/E/AI/CANDRA O/SHORT O/O/AU
94D DEVANAGARI /SIGN VIRAMA/VOWEL SIGN PRISHTHAMATRA E/VOWEL SIGN AW/OM/STRESS SIGN UDATTA
952 DEVANAGARI /STRESS SIGN ANUDATTA/GRAVE ACCENT/ACUTE ACCENT
955 DEVANAGARI VOWEL SIGN /CANDRA LONG E/UE/UUE
958 DEVANAGARI LETTER /QA/KHHA/GHHA/ZA/DDDHA/RHA/FA/YYA/VOCALIC RR/VOCALIC LL
962 DEVANAGARI VOWEL SIGN VOCALIC /L/LL
964 DEVANAGARI /DANDA/DOUBLE DANDA
966 DEVANAGARI DIGIT /ZERO/ONE/TWO/THREE/FOUR/FIVE/SIX/SEVEN/EIGHT/NINE
970 DEVANAGARI /ABBREVIATION SIGN/SIGN HIGH SPACING DOT/LETTER CANDRA A
973 DEVANAGARI LETTER /OE/OOE/AW/UE/UUE/MARWARI DDA/ZHA/HEAVY YA/GGA/JJA/GLOTTAL STOP/DDDA/BBA
980 BENGALI /ANJI/SIGN CANDRABINDU/SIGN ANUSVARA/SIGN VISARGA
985 BENGALI LETTER /A/AA/I/II/U/UU/VOCALIC R/VOCALIC L
98F BENGALI LETTER /E/AI
993 BENGALI LETTER /O/AU/KA/KHA/GA/GHA/NGA/CA/CHA/JA/JHA/NYA/TTA/TTHA/DDA/DDHA/NNA/TA/THA/DA/DHA/NA
9AA BENGALI LETTER /PA/PHA/BA/BHA/MA/YA/RA
9B2 /BENGALI LETTER LA
9B6 BENGALI LETTER /SHA/SSA/SA/HA
9BC BENGALI SIGN /NUKTA/AVAGRAHA
9BE BENGALI VOWEL SIGN /AA/I/II/U/UU/VOCALIC R/VOCALIC RR
9C7 BENGALI VOWEL SIGN /E/AI
9CB BENGALI /VOWEL SIGN O/VOWEL SIGN AU/SIGN VIRAMA/LETTER KHANDA TA
9D7 /BENGALI AU LENGTH MARK
9DC BENGALI LETTER /RRA/RHA
9DF BENGALI LETTER /YYA/VOCALIC RR/VOCALIC LL
9E2 BENGALI VOWEL SIGN VOCALIC /L/LL
9E6 BENGALI DIGIT /ZERO/ONE/TWO/THREE/FOUR/FIVE/SIX/SEVEN/EIGHT/NINE
9F0 BENGALI LETTER RA WITH /MIDDLE DIAGONAL/LOWER DIAGONAL
9F2 BENGALI RUPEE /MARK/SIGN
9F4 BENGALI CURRENCY NUMERATOR /ONE/TWO/THREE/FOUR/ONE LESS THAN THE DENOMINATOR
9F9 BENGALI /CURRENCY DENOMINATOR SIXTEEN/ISSHAR/GANDA MARK/LETTER VEDIC ANUSVARA/ABBREVIATION SIGN
9FE /BENGALI SANDHI MARK
A01 GURMUKHI SIGN /ADAK BINDI/BINDI/VISARGA
A05 GURMUKHI LETTER /A/AA/I/II/U/UU
A0F GURMUKHI LETTER /EE/AI
A13 GURMUKHI LETTER /OO/AU/KA/KHA/GA/GHA/NGA/CA/CHA/JA/JHA/NYA/TTA/TTHA/DDA/DDHA/NNA/TA/THA/DA/DHA
A28 /GURMUKHI LETTER NA
A2A GURMUKHI LETTER /PA/PHA/BA/BHA/MA/YA/RA
A32 GURMUKHI LETTER /LA/LLA
A35 GURMUKHI LETTER /VA/SHA
A38 GURMUKHI LETTER /SA/HA
A3C /GURMUKHI SIGN NUKTA
A3E GURMUKHI VOWEL SIGN /AA/I/II/U/UU
A47 GURMUKHI VOWEL SIGN /EE/AI
A4B GURMUKHI /VOWEL SIGN OO/VOWEL SIGN AU/SIGN VIRAMA
A51 /GURMUKHI SIGN UDAAT
A59 GURMUKHI LETTER /KHHA/GHHA/ZA/RRA
A5E /GURMUKHI LETTER FA
A66 GURMUKHI DIGIT /ZERO/ONE/TWO/THREE/FOUR/FIVE/SIX/SEVEN/EIGHT/NINE
A70 GURMUKHI /TIPPI/ADDAK/IRI/URA/EK ONKAR/SIGN YAKASH/ABBREVIATION SIGN
A81 GUJARATI SIGN /CANDRABINDU/ANUSVARA/VISARGA
A85 GUJARATI LETTER /A/AA/I/II/U/UU/VOCALIC R/VOCALIC L
A8D /GUJARATI VOWEL CANDRA E
A8F GUJARATI /LETTER E/LETTER AI/VOWEL CANDRA O
A93 GUJARATI LETTER /O/AU/KA/KHA/GA/GHA/NGA/CA/CHA/JA/JHA/NYA/TTA/TTHA/DDA/DDHA/NNA/TA/THA/DA/DHA
AA8 /GUJARATI LETTER NA
AAA GUJARATI LETTER /PA/PHA/BA/BHA/MA/YA/RA
AB2 GUJARATI LETTER /LA/LLA
AB5 GUJARATI LETTER /VA/SHA/SSA/SA/HA
ABC GUJARATI SIGN /NUKTA/AVAGRAHA
ABE GUJARATI VOWEL SIGN /AA/I/II/U/UU/VOCALIC R/VOCALIC RR/CANDRA E
AC7 GUJARATI VOWEL SIGN /E/AI/CANDRA O
ACB GUJARATI /VOWEL SIGN O/VOWEL SIGN AU/SIGN VIRAMA
AD0 /GUJARATI OM
AE0 GUJARATI LETTER VOCALIC /RR/LL
AE2 GUJARATI VOWEL SIGN VOCALIC /L/LL
AE6 GUJARATI DIGIT /ZERO/ONE/TWO/THREE/FOUR/FIVE/SIX/SEVEN/EIGHT/NINE
AF0 GUJARATI /ABBREVIATION SIGN/RUPEE SIGN
AF9 GUJARATI /LETTER ZHA/SIGN SUKUN
AFB GUJARATI SIGN /SHADDA/MADDAH/THREE-DOT NUKTA ABOVE/CIRCLE NUKTA ABOVE/TWO-CIRCLE NUKTA ABOVE
B01 ORIYA SIGN /CANDRABINDU/ANUSVARA/VISARGA
B05 ORIYA LETTER /A/AA/I/II/U/UU/VOCALIC R/VOCALIC L
B0F ORIYA LETTER /E/AI
B13 ORIYA LETTER /O/AU/KA/KHA/GA/GHA/NGA/CA/CHA/JA/JHA/NYA/TTA/TTHA/DDA/DDHA/NNA/TA/THA/DA/DHA/NA
B2A ORIYA LETTER /PA/PHA/BA/BHA/MA/YA/RA
B32 ORIYA LETTER /LA/LLA
B35 ORIYA LETTER /VA/SHA/SSA/SA/HA
B3C ORIYA SIGN /NUKTA/AVAGRAHA
B3E ORIYA VOWEL SIGN /AA/I/II/U/UU/VOCALIC R/VOCALIC RR
B47 ORIYA VOWEL SIGN /E/AI
B4B ORIYA VOWEL SIGN /O/AU
B4D /ORIYA SIGN VIRAMA
B55 ORIYA /SIGN OVERLINE/AI LENGTH MARK/AU LENGTH MARK
B5C ORIYA LETTER /RRA/RHA
B5F ORIYA LETTER /YYA/VOCALIC RR/VOCALIC LL
B62 ORIYA VOWEL SIGN VOCALIC /L/LL
B66 ORIYA DIGIT /ZERO/ONE/TWO/THREE/FOUR/FIVE/SIX/SEVEN/EIGHT/NINE
B70 ORIYA /ISSHAR/LETTER WA
B72 ORIYA FRACTION /ONE QUARTER/ONE HALF/THREE QUARTERS/ONE SIXTEENTH/ONE EIGHTH/THREE SIXTEENTHS
B82 TAMIL SIGN /ANUSVARA/VISARGA
B85 TAMIL LETTER /A/AA/I/II/U/UU
B8E TAMIL LETTER /E/EE/AI
B92 TAMIL LETTER /O/OO/AU/KA
B99 TAMIL LETTER /NGA/CA
B9C /TAMIL LETTER JA
B9E TAMIL LETTER /NYA/TTA
BA3 TAMIL LETTER /NNA/TA
BA8 TAMIL LETTER /NA/NNNA/PA
BAE TAMIL LETTER /MA/YA/RA/RRA/LA/LLA/LLLA/VA/SHA/SSA/SA/HA
BBE TAMIL VOWEL SIGN /AA/I/II/U/UU
BC6 TAMIL VOWEL SIGN /E/EE/AI
BCA TAMIL VOWEL SIGN /O/OO/AU
BCD /TAMIL SIGN VIRAMA
BD0 /TAMIL OM
BD7 /TAMIL AU LENGTH MARK
BE6 TAMIL DIGIT /ZERO/ONE/TWO/THREE/FOUR/FIVE/SIX/SEVEN/EIGHT/NINE
BF0 TAMIL NUMBER /TEN/ONE HUNDRED/ONE THOUSAND
BF3 TAMIL /DAY SIGN/MONTH SIGN/YEAR SIGN/DEBIT SIGN/CREDIT SIGN/AS ABOVE SIGN/RUPEE SIGN
BFA /TAMIL NUMBER SIGN
C00 TELUGU SIGN /COMBINING CANDRABINDU ABOVE/CANDRABINDU/ANUSVARA/VISARGA/COMBINING ANUSVARA ABOVE
C05 TELUGU LETTER /A/AA/I/II/U/UU/VOCALIC R/VOCALIC L
C0E TELUGU LETTER /E/EE/AI
C12 TELUGU LETTER /O/OO/AU/KA/KHA/GA/GHA/NGA/CA/CHA/JA/JHA/NYA/TTA/TTHA/DDA/DDHA/NNA/TA/THA/DA/DHA
C28 /TELUGU LETTER NA
C2A TELUGU LETTER /PA/PHA/BA/BHA/MA/YA/RA/RRA/LA/LLA/LLLA/VA/SHA/SSA/SA/HA
C3C TELUGU SIGN /NUKTA/AVAGRAHA
C3E TELUGU VOWEL SIGN /AA/I/II/U/UU/VOCALIC R/VOCALIC RR
C46 TELUGU VOWEL SIGN /E/EE/AI
C4A TELUGU VOWEL SIGN /O/OO/AU
C4D /TELUGU SIGN VIRAMA
C55 TELUGU /LENGTH MARK/AI LENGTH MARK
C58 TELUGU LETTER /TSA/DZA/RRRA
C5D /TELUGU LETTER NAKAARA POLLU
C60 TELUGU LETTER VOCALIC /RR/LL
C62 TELUGU VOWEL SIGN VOCALIC /L/LL
C66 TELUGU DIGIT /ZERO/ONE/TWO/THREE/FOUR/FIVE/SIX/SEVEN/EIGHT/NINE
C77 TELUGU /SIGN SIDDHAM/FRACTION DIGIT ZERO FOR ODD POWERS OF FOUR
C79 TELUGU FRACTION DIGIT /ONE FOR ODD POWERS OF FOUR/TWO FOR ODD POWERS OF FOUR
C7B TELUGU FRACTION DIGIT /THREE FOR ODD POWERS OF FOUR/ONE FOR EVEN POWERS OF FOUR
C7D TELUGU FRACTION DIGIT /TWO FOR EVEN POWERS OF FOUR/THREE FOR EVEN POWERS OF FOUR
C7F /TELUGU SIGN TUUMU
C80 KANNADA SIGN /SPACING CANDRABINDU/CANDRABINDU/ANUSVARA/VISARGA/SIDDHAM
C85 KANNADA LETTER /A/AA/I/II/U/UU/VOCALIC R/VOCALIC L
C8E KANNADA LETTER /E/EE/AI
C92 KANNADA LETTER /O/OO/AU/KA/KHA/GA/GHA/NGA/CA/CHA/JA/JHA/NYA/TTA/TTHA/DDA/DDHA/NNA/TA/THA/DA/DHA
CA8 /KANNADA LETTER NA
CAA KANNADA LETTER /PA/PHA/BA/BHA/MA/YA/RA/RRA/LA/LLA
CB5 KANNADA LETTER /VA/SHA/SSA/SA/HA
CBC KANNADA SIGN /NUKTA/AVAGRAHA
CBE KANNADA VOWEL SIGN /AA/I/II/U/UU/VOCALIC R/VOCALIC RR
CC6 KANNADA VOWEL SIGN /E/EE/AI
CCA KANNADA VOWEL SIGN /O/OO/AU
CCD /KANNADA SIGN VIRAMA
CD5 KANNADA /LENGTH MARK/AI LENGTH MARK
CDD KANNADA LETTER /NAKAARA POLLU/FA
CE0 KANNADA LETTER VOCALIC /RR/LL
CE2 KANNADA VOWEL SIGN VOCALIC /L/LL
CE6 KANNADA DIGIT /ZERO/ONE/TWO/THREE/FOUR/FIVE/SIX/SEVEN/EIGHT/NINE
CF1 KANNADA SIGN /JIHVAMULIYA/UPADHMANIYA
D00 MALAYALAM SIGN /COMBINING ANUSVARA ABOVE/CANDRABINDU/ANUSVARA/VISARGA
D04 MALAYALAM LETTER /VEDIC ANUSVARA/A/AA/I/II/U/UU/VOCALIC R/VOCALIC L
D0E MALAYALAM LETTER /E/EE/AI
D12 MALAYALAM LETTER /O/OO/AU/KA/KHA/GA/GHA/NGA/CA/CHA/JA/JHA/NYA/TTA/TTHA/DDA/DDHA/NNA/TA/THA/DA
D27 MALAYALAM LETTER /DHA/NA/NNNA/PA/PHA/BA/BHA/MA/YA/RA/RRA/LA/LLA/LLLA/VA/SHA/SSA/SA/HA/TTTA
D3B MALAYALAM SIGN /VERTICAL BAR VIRAMA/CIRCULAR VIRAMA/AVAGRAHA
D3E MALAYALAM VOWEL SIGN /AA/I/II/U/UU/VOCALIC R/VOCALIC RR
D46 MALAYALAM VOWEL SIGN /E/EE/AI
D4A MALAYALAM VOWEL SIGN /O/OO/AU
D4D MALAYALAM /SIGN VIRAMA/LETTER DOT REPH/SIGN PARA
D54 MALAYALAM LETTER CHILLU /M/Y/LLL
D57 MALAYALAM /AU LENGTH MARK/FRACTION ONE ONE-HUNDRED-AND-SIXTIETH/FRACTION ONE FORTIETH
D5A MALAYALAM FRACTION /THREE EIGHTIETHS/ONE TWENTIETH/ONE TENTH/THREE TWENTIETHS/ONE FIFTH
D5F MALAYALAM LETTER /ARCHAIC II/VOCALIC RR/VOCALIC LL
D62 MALAYALAM VOWEL SIGN VOCALIC /L/LL
D66 MALAYALAM DIGIT /ZERO/ONE/TWO/THREE/FOUR/FIVE/SIX/SEVEN/EIGHT/NINE
D70 MALAYALAM NUMBER /TEN/ONE HUNDRED/ONE THOUSAND
D73 MALAYALAM FRACTION /ONE QUARTER/ONE HALF/THREE QUARTERS/ONE SIXTEENTH/ONE EIGHTH
D78 MALAYALAM /FRACTION THREE SIXTEENTHS/DATE MARK
D7A MALAYALAM LETTER CHILLU /NN/N/RR/L/LL/K
D81 SINHALA SIGN /CANDRABINDU/ANUSVARAYA/VISARGAYA
D85 SINHALA LETTER /AYANNA/AAYANNA/AEYANNA/AEEYANNA/IYANNA/IIYANNA/UYANNA/UUYANNA/IRUYANNA
D8E SINHALA LETTER /IRUUYANNA/ILUYANNA/ILUUYANNA/EYANNA/EEYANNA/AIYANNA/OYANNA/OOYANNA/AUYANNA
D9A SINHALA LETTER /ALPAPRAANA KAYANNA/MAHAAPRAANA KAYANNA/ALPAPRAANA GAYANNA/MAHAAPRAANA GAYANNA
D9E SINHALA LETTER /KANTAJA NAASIKYAYA/SANYAKA GAYANNA/ALPAPRAANA CAYANNA/MAHAAPRAANA CAYANNA
DA2 SINHALA LETTER /ALPAPRAANA JAYANNA/MAHAAPRAANA JAYANNA
DA4 SINHALA LETTER TAALUJA /NAASIKYAYA/SANYOOGA NAAKSIKYAYA
DA6 SINHALA LETTER /SANYAKA JAYANNA/ALPAPRAANA TTAYANNA/MAHAAPRAANA TTAYANNA/ALPAPRAANA DDAYANNA
DAA SINHALA LETTER /MAHAAPRAANA DDAYANNA/MUURDHAJA NAYANNA/SANYAKA DDAYANNA/ALPAPRAANA TAYANNA
DAE SINHALA LETTER /MAHAAPRAANA TAYANNA/ALPAPRAANA DAYANNA/MAHAAPRAANA DAYANNA/DANTAJA NAYANNA
DB3 SINHALA LETTER /SANYAKA DAYANNA/ALPAPRAANA PAYANNA/MAHAAPRAANA PAYANNA/ALPAPRAANA BAYANNA
DB7 SINHALA LETTER /MAHAAPRAANA BAYANNA/MAYANNA/AMBA BAYANNA/YAYANNA/RAYANNA
DBD /SINHALA LETTER DANTAJA LAYANNA
DC0 SINHALA LETTER /VAYANNA/TAALUJA SAYANNA/MUURDHAJA SAYANNA/DANTAJA SAYANNA/HAYANNA
DC5 SINHALA LETTER /MUURDHAJA LAYANNA/FAYANNA
DCA /SINHALA SIGN AL-LAKUNA
DCF SINHALA VOWEL SIGN /AELA-PILLA/KETTI AEDA-PILLA/DIGA AEDA-PILLA/KETTI IS-PILLA/DIGA IS-PILLA
DD4 /SINHALA VOWEL SIGN KETTI PAA-PILLA
DD6 /SINHALA VOWEL SIGN DIGA PAA-PILLA
DD8 SINHALA VOWEL SIGN /GAETTA-PILLA/KOMBUVA/DIGA KOMBUVA/KOMBU DEKA
DDC SINHALA VOWEL SIGN KOMBUVA HAA /AELA-PILLA/DIGA AELA-PILLA/GAYANUKITTA
DDF /SINHALA VOWEL SIGN GAYANUKITTA
DE6 SINHALA LITH DIGIT /ZERO/ONE/TWO/THREE/FOUR/FIVE/SIX/SEVEN/EIGHT/NINE
DF2 SINHALA VOWEL SIGN DIGA /GAETTA-PILLA/GAYANUKITTA
DF4 /SINHALA PUNCTUATION KUNDDALIYA
E01 THAI CHARACTER /KO KAI/KHO KHAI/KHO KHUAT/KHO KHWAI/KHO KHON/KHO RAKHANG/NGO NGU/CHO CHAN
E09 THAI CHARACTER /CHO CHING/CHO CHANG/SO SO/CHO CHOE/YO YING/DO CHADA/TO PATAK/THO THAN
E11 THAI CHARACTER /THO NANGMONTHO/THO PHUTHAO/NO NEN/DO DEK/TO TAO/THO THUNG/THO THAHAN/THO THONG
E19 THAI CHARACTER /NO NU/BO BAIMAI/PO PLA/PHO PHUNG/FO FA/PHO PHAN/FO FAN/PHO SAMPHAO/MO MA/YO YAK
E23 THAI CHARACTER /RO RUA/RU/LO LING/LU/WO WAEN/SO SALA/SO RUSI/SO SUA/HO HIP/LO CHULA/O ANG
E2E THAI CHARACTER /HO NOKHUK/PAIYANNOI/SARA A/MAI HAN-AKAT
E32 THAI CHARACTER SARA /AA/AM/I/II/UE/UEE/U/UU
E3A /THAI CHARACTER PHINTHU
E3F /THAI CURRENCY SYMBOL BAHT
E40 THAI CHARACTER SARA /E/AE/O/AI MAIMUAN/AI MAIMALAI
E45 THAI CHARACTER /LAKKHANGYAO/MAIYAMOK/MAITAIKHU/MAI EK/MAI THO/MAI TRI/MAI CHATTAWA/THANTHAKHAT
E4D THAI CHARACTER /NIKHAHIT/YAMAKKAN/FONGMAN
E50 THAI DIGIT /ZERO/ONE/TWO/THREE/FOUR/FIVE/SIX/SEVEN/EIGHT/NINE
E5A THAI CHARACTER /ANGKHANKHU/KHOMUT
E81 LAO LETTER /KO/KHO SUNG
E84 /LAO LETTER KHO TAM
E86 LAO LETTER /PALI GHA/NGO/CO/PALI CHA/SO TAM
E8C LAO LETTER /PALI JHA/NYO/PALI NYA/PALI TTA/PALI TTHA/PALI DDA/PALI DDHA/PALI NNA/DO/TO/THO SUNG
E97 LAO LETTER /THO TAM/PALI DHA/NO/BO/PO/PHO SUNG/FO TAM/PHO TAM/FO SUNG/PALI BHA/MO/YO/LO LING
EA5 /LAO LETTER LO LOOT
EA7 LAO LETTER /WO/SANSKRIT SHA/SANSKRIT SSA/SO SUNG/HO SUNG/PALI LLA/O/HO TAM
EAF /LAO ELLIPSIS
EB0 LAO VOWEL SIGN /A/MAI KAN/AA/AM/I/II/Y/YY/U/UU
EBA LAO /SIGN PALI VIRAMA/VOWEL SIGN MAI KON
EBC LAO SEMIVOWEL SIGN /LO/NYO
EC0 LAO VOWEL SIGN /E/EI/O/AY/AI
EC6 /LAO KO LA
EC8 LAO TONE MAI /EK/THO/TI/CATAWA
ECC LAO /CANCELLATION MARK/NIGGAHITA
ED0 LAO DIGIT /ZERO/ONE/TWO/THREE/FOUR/FIVE/SIX/SEVEN/EIGHT/NINE
EDC LAO HO /NO/MO
EDE LAO LETTER KHMU /GO/NYO
F00 /TIBETAN SYLLABLE OM
F01 TIBETAN MARK GTER YIG MGO /TRUNCATED A/-UM RNAM BCAD MA/-UM GTER TSHEG MA
F04 TIBETAN MARK /INITIAL YIG MGO MDUN MA/CLOSING YIG MGO SGAB MA/CARET YIG MGO PHUR SHAD MA
F07 TIBETAN MARK /YIG MGO TSHEG SHAD MA/SBRUL SHAD/BSKUR YIG MGO/BKA- SHOG YIG MGO
F0B TIBETAN MARK /INTERSYLLABIC TSHEG/DELIMITER TSHEG BSTAR/SHAD/NYIS SHAD/TSHEG SHAD
F10 TIBETAN MARK /NYIS TSHEG SHAD/RIN CHEN SPUNGS SHAD/RGYA GRAM SHAD/CARET -DZUD RTAGS ME LONG CAN
F14 /TIBETAN MARK GTER TSHEG
F15 TIBETAN LOGOTYPE SIGN /CHAD RTAGS/LHAG RTAGS
F17 TIBETAN ASTROLOGICAL SIGN /SGRA GCAN -CHAR RTAGS/-KHYUD PA/SDONG TSHUGS
F1A TIBETAN SIGN RDEL /DKAR GCIG/DKAR GNYIS/DKAR GSUM/NAG GCIG/NAG GNYIS/DKAR RDEL NAG
F20 TIBETAN DIGIT /ZERO/ONE/TWO/THREE/FOUR/FIVE/SIX/SEVEN/EIGHT/NINE
F2A TIBETAN DIGIT HALF /ONE/TWO/THREE/FOUR/FIVE/SIX/SEVEN/EIGHT/NINE/ZERO
F34 TIBETAN MARK /BSDUS RTAGS/NGAS BZUNG NYI ZLA/CARET -DZUD RTAGS BZHI MIG CAN
F37 TIBETAN MARK /NGAS BZUNG SGOR RTAGS/CHE MGO/TSA -PHRU/GUG RTAGS GYON/GUG RTAGS GYAS
F3C TIBETAN MARK ANG KHANG /GYON/GYAS
F3E TIBETAN SIGN /YAR TSHES/MAR TSHES
F40 TIBETAN LETTER /KA/KHA/GA/GHA/NGA/CA/CHA/JA
F49 TIBETAN LETTER /NYA/TTA/TTHA/DDA/DDHA/NNA/TA/THA/DA/DHA/NA/PA/PHA/BA/BHA/MA/TSA/TSHA/DZA/DZHA
F5D TIBETAN LETTER /WA/ZHA/ZA/-A/YA/RA/LA/SHA/SSA/SA/HA/A/KSSA/FIXED-FORM RA/KKA/RRA
F71 TIBETAN VOWEL SIGN /AA/I/II/U/UU/VOCALIC R/VOCALIC RR/VOCALIC L/VOCALIC LL/E/EE/O/OO
F7E TIBETAN SIGN /RJES SU NGA RO/RNAM BCAD
F80 TIBETAN VOWEL SIGN REVERSED /I/II
F82 TIBETAN /SIGN NYI ZLA NAA DA/SIGN SNA LDAN/MARK HALANTA/MARK PALUTA/SIGN LCI RTAGS
F87 TIBETAN SIGN /YANG RTAGS/LCE TSA CAN/MCHU CAN/GRU CAN RGYINGS/GRU MED RGYINGS/INVERTED MCHU CAN
F8D TIBETAN SUBJOINED SIGN /LCE TSA CAN/MCHU CAN/INVERTED MCHU CAN
F90 TIBETAN SUBJOINED LETTER /KA/KHA/GA/GHA/NGA/CA/CHA/JA
F99 TIBETAN SUBJOINED LETTER /NYA/TTA/TTHA/DDA/DDHA/NNA/TA/THA/DA/DHA/NA/PA/PHA/BA/BHA/MA/TSA/TSHA
FAB TIBETAN SUBJOINED LETTER /DZA/DZHA/WA/ZHA/ZA/-A/YA/RA/LA/SHA/SSA/SA/HA/A/KSSA
FBA TIBETAN SUBJOINED LETTER FIXED-FORM /WA/YA/RA
FBE TIBETAN KU RU /KHA/KHA BZHI MIG CAN
FC0 TIBETAN CANTILLATION SIGN /HEAVY BEAT/LIGHT BEAT/CANG TE-U/SBUB -CHAL
FC4 TIBETAN SYMBOL /DRIL BU/RDO RJE/PADMA GDAN/RDO RJE RGYA GRAM/PHUR PA/NOR BU
FCA TIBETAN SYMBOL NOR BU /NYIS -KHYIL/GSUM -KHYIL/BZHI -KHYIL
FCE TIBETAN SIGN RDEL NAG /RDEL DKAR/GSUM
FD0 TIBETAN MARK /BSKA- SHOG GI MGO RGYAN/MNYAM YIG GI MGO RGYAN/NYIS TSHEG
FD3 TIBETAN MARK /INITIAL BRDA RNYING YIG MGO MDUN MA/CLOSING BRDA RNYING YIG MGO SGAB MA
FD5 /RIGHT-FACING SVASTI SIGN/LEFT-FACING SVASTI SIGN/RIGHT-FACING SVASTI SIGN WITH DOTS
FD8 /LEFT-FACING SVASTI SIGN WITH DOTS
FD9 TIBETAN MARK /LEADING MCHAN RTAGS/TRAILING MCHAN RTAGS
1000 MYANMAR LETTER /KA/KHA/GA/GHA/NGA/CA/CHA/JA/JHA/NYA/NNYA/TTA/TTHA/DDA/DDHA/NNA/TA/THA/DA/DHA
1014 MYANMAR LETTER /NA/PA/PHA/BA/BHA/MA/YA/RA/LA/WA/SA/HA/LLA/A/SHAN A/I/II/U/UU/E/MON E/O/AU
102B MYANMAR VOWEL SIGN /TALL AA/AA/I/II/U/UU/E/AI/MON II/MON O/E ABOVE
1036 MYANMAR SIGN /ANUSVARA/DOT BELOW/VISARGA/VIRAMA/ASAT
103B MYANMAR CONSONANT SIGN MEDIAL /YA/RA/WA/HA
103F /MYANMAR LETTER GREAT SA
1040 MYANMAR DIGIT /ZERO/ONE/TWO/THREE/FOUR/FIVE/SIX/SEVEN/EIGHT/NINE
104A MYANMAR SIGN /LITTLE SECTION/SECTION
104C MYANMAR SYMBOL /LOCATIVE/COMPLETED/AFOREMENTIONED/GENITIVE
1050 MYANMAR LETTER /SHA/SSA
1052 MYANMAR LETTER VOCALIC /R/RR/L/LL
1056 MYANMAR VOWEL SIGN VOCALIC /R/RR/L/LL
105A MYANMAR LETTER MON /NGA/JHA/BBA/BBE
105E MYANMAR CONSONANT SIGN MON MEDIAL /NA/MA/LA
1061 MYANMAR /LETTER SGAW KAREN SHA/VOWEL SIGN SGAW KAREN EU
1063 MYANMAR TONE MARK SGAW KAREN /HATHI/KE PHO
1065 MYANMAR LETTER WESTERN PWO KAREN /THA/PWA
1067 MYANMAR VOWEL SIGN WESTERN PWO KAREN /EU/UE
1069 MYANMAR SIGN WESTERN PWO KAREN TONE-/1/2/3/4/5
106E MYANMAR LETTER EASTERN PWO KAREN /NNA/YWA/GHWA
1071 MYANMAR VOWEL SIGN /GEBA KAREN I/KAYAH OE/KAYAH U/KAYAH EE
1075 MYANMAR LETTER SHAN /KA/KHA/GA/CA/ZA/NYA/DA/NA/PHA/FA/BA/THA/HA
1082 /MYANMAR CONSONANT SIGN SHAN MEDIAL WA
1083 MYANMAR VOWEL SIGN SHAN /AA/E/E ABOVE/FINAL Y
1087 MYANMAR SIGN SHAN TONE-/2/3/5/6
108B MYANMAR SIGN SHAN COUNCIL /TONE-2/TONE-3/EMPHATIC TONE
108E MYANMAR /LETTER RUMAI PALAUNG FA/SIGN RUMAI PALAUNG TONE-5
1090 MYANMAR SHAN DIGIT /ZERO/ONE/TWO/THREE/FOUR/FIVE/SIX/SEVEN/EIGHT/NINE
109A MYANMAR SIGN KHAMTI TONE-/1/3
109C MYANMAR VOWEL SIGN AITON /A/AI
109E MYANMAR SYMBOL SHAN /ONE/EXCLAMATION
10A0 GEORGIAN CAPITAL LETTER /AN/BAN/GAN/DON/EN/VIN/ZEN/TAN/IN/KAN/LAS/MAN/NAR/ON/PAR/ZHAR/RAE/SAN
10B2 GEORGIAN CAPITAL LETTER /TAR/UN/PHAR/KHAR/GHAN/QAR/SHIN/CHIN/CAN/JIL/CIL/CHAR/XAN/JHAN/HAE/HE
10C2 GEORGIAN CAPITAL LETTER /HIE/WE/HAR/HOE
10C7 /GEORGIAN CAPITAL LETTER YN
10CD /GEORGIAN CAPITAL LETTER AEN
10D0 GEORGIAN LETTER /AN/BAN/GAN/DON/EN/VIN/ZEN/TAN/IN/KAN/LAS/MAN/NAR/ON/PAR/ZHAR/RAE/SAN/TAR/UN
10E4 GEORGIAN LETTER /PHAR/KHAR/GHAN/QAR/SHIN/CHIN/CAN/JIL/CIL/CHAR/XAN/JHAN/HAE/HE/HIE/WE/HAR/HOE
10F6 GEORGIAN LETTER /FI/YN/ELIFI/TURNED GAN/AIN
10FB /GEORGIAN PARAGRAPH SEPARATOR/MODIFIER LETTER GEORGIAN NAR
10FD GEORGIAN LETTER /AEN/HARD SIGN/LABIAL SIGN
1100 HANGUL CHOSEONG /KIYEOK/SSANGKIYEOK/NIEUN/TIKEUT/SSANGTIKEUT/RIEUL/MIEUM/PIEUP/SSANGPIEUP/SIOS
110A HANGUL CHOSEONG /SSANGSIOS/IEUNG/CIEUC/SSANGCIEUC/CHIEUCH/KHIEUKH/THIEUTH/PHIEUPH/HIEUH
1113 HANGUL CHOSEONG /NIEUN-KIYEOK/SSANGNIEUN/NIEUN-TIKEUT/NIEUN-PIEUP/TIKEUT-KIYEOK/RIEUL-NIEUN
1119 HANGUL CHOSEONG /SSANGRIEUL/RIEUL-HIEUH/KAPYEOUNRIEUL/MIEUM-PIEUP/KAPYEOUNMIEUM
111E HANGUL CHOSEONG PIEUP-/KIYEOK/NIEUN/TIKEUT/SIOS/SIOS-KIYEOK/SIOS-TIKEUT/SIOS-PIEUP/SSANGSIOS
1126 HANGUL CHOSEONG PIEUP-/SIOS-CIEUC/CIEUC/CHIEUCH/THIEUTH/PHIEUPH
112B HANGUL CHOSEONG /KAPYEOUNPIEUP/KAPYEOUNSSANGPIEUP
112D HANGUL CHOSEONG SIOS-/KIYEOK/NIEUN/TIKEUT/RIEUL/MIEUM/PIEUP/PIEUP-KIYEOK/SSANGSIOS/IEUNG/CIEUC
1137 HANGUL CHOSEONG SIOS-/CHIEUCH/KHIEUKH/THIEUTH/PHIEUPH/HIEUH
113C HANGUL CHOSEONG /CHITUEUMSIOS/CHITUEUMSSANGSIOS/CEONGCHIEUMSIOS/CEONGCHIEUMSSANGSIOS/PANSIOS
1141 HANGUL CHOSEONG IEUNG-/KIYEOK/TIKEUT/MIEUM/PIEUP/SIOS/PANSIOS
1147 HANGUL CHOSEONG /SSANGIEUNG/IEUNG-CIEUC/IEUNG-CHIEUCH/IEUNG-THIEUTH/IEUNG-PHIEUPH/YESIEUNG
114D HANGUL CHOSEONG /CIEUC-IEUNG/CHITUEUMCIEUC/CHITUEUMSSANGCIEUC/CEONGCHIEUMCIEUC
1151 HANGUL CHOSEONG /CEONGCHIEUMSSANGCIEUC/CHIEUCH-KHIEUKH/CHIEUCH-HIEUH/CHITUEUMCHIEUCH
1155 HANGUL CHOSEONG /CEONGCHIEUMCHIEUCH/PHIEUPH-PIEUP/KAPYEOUNPHIEUPH/SSANGHIEUH/YEORINHIEUH
115A HANGUL CHOSEONG /KIYEOK-TIKEUT/NIEUN-SIOS/NIEUN-CIEUC/NIEUN-HIEUH/TIKEUT-RIEUL/FILLER
1160 HANGUL JUNGSEONG /FILLER/A/AE/YA/YAE/EO/E/YEO/YE/O/WA/WAE/OE/YO/U/WEO/WE/WI/YU/EU/YI/I/A-O/A-U
1178 HANGUL JUNGSEONG /YA-O/YA-YO/EO-O/EO-U/EO-EU/YEO-O/YEO-U/O-EO/O-E/O-YE/O-O/O-U/YO-YA/YO-YAE
1186 HANGUL JUNGSEONG /YO-YEO/YO-O/YO-I/U-A/U-AE/U-EO-EU/U-YE/U-U/YU-A/YU-EO/YU-E/YU-YEO/YU-YE/YU-U
1194 HANGUL JUNGSEONG /YU-I/EU-U/EU-EU/YI-U/I-A/I-YA/I-O/I-U/I-EU/I-ARAEA/ARAEA/ARAEA-EO/ARAEA-U
11A1 HANGUL JUNGSEONG /ARAEA-I/SSANGARAEA/A-EU/YA-U/YEO-YA/O-YA/O-YAE
11A8 HANGUL JONGSEONG /KIYEOK/SSANGKIYEOK/KIYEOK-SIOS/NIEUN/NIEUN-CIEUC/NIEUN-HIEUH/TIKEUT/RIEUL
11B0 HANGUL JONGSEONG RIEUL-/KIYEOK/MIEUM/PIEUP/SIOS/THIEUTH/PHIEUPH/HIEUH
11B7 HANGUL JONGSEONG /MIEUM/PIEUP/PIEUP-SIOS/SIOS/SSANGSIOS/IEUNG/CIEUC/CHIEUCH/KHIEUKH/THIEUTH
11C1 HANGUL JONGSEONG /PHIEUPH/HIEUH/KIYEOK-RIEUL/KIYEOK-SIOS-KIYEOK
11C5 HANGUL JONGSEONG NIEUN-/KIYEOK/TIKEUT/SIOS/PANSIOS/THIEUTH
11CA HANGUL JONGSEONG TIKEUT-/KIYEOK/RIEUL
11CC HANGUL JONGSEONG RIEUL-/KIYEOK-SIOS/NIEUN/TIKEUT/TIKEUT-HIEUH
11D0 HANGUL JONGSEONG /SSANGRIEUL/RIEUL-MIEUM-KIYEOK/RIEUL-MIEUM-SIOS/RIEUL-PIEUP-SIOS
11D4 HANGUL JONGSEONG RIEUL-/PIEUP-HIEUH/KAPYEOUNPIEUP/SSANGSIOS/PANSIOS/KHIEUKH/YEORINHIEUH
11DA HANGUL JONGSEONG MIEUM-/KIYEOK/RIEUL/PIEUP/SIOS/SSANGSIOS/PANSIOS/CHIEUCH/HIEUH
11E2 HANGUL JONGSEONG /KAPYEOUNMIEUM/PIEUP-RIEUL/PIEUP-PHIEUPH/PIEUP-HIEUH/KAPYEOUNPIEUP
11E7 HANGUL JONGSEONG SIOS-/KIYEOK/TIKEUT/RIEUL/PIEUP
11EB HANGUL JONGSEONG /PANSIOS/IEUNG-KIYEOK/IEUNG-SSANGKIYEOK/SSANGIEUNG/IEUNG-KHIEUKH/YESIEUNG
11F1 HANGUL JONGSEONG /YESIEUNG-SIOS/YESIEUNG-PANSIOS/PHIEUPH-PIEUP/KAPYEOUNPHIEUPH/HIEUH-NIEUN
11F6 HANGUL JONGSEONG /HIEUH-RIEUL/HIEUH-MIEUM/HIEUH-PIEUP/YEORINHIEUH
11FA HANGUL JONGSEONG KIYEOK-/NIEUN/PIEUP/CHIEUCH/KHIEUKH/HIEUH
11FF /HANGUL JONGSEONG SSANGNIEUN
1200 ETHIOPIC SYLLABLE /HA/HU/HI/HAA/HEE/HE/HO/HOA/LA/LU/LI/LAA/LEE/LE/LO/LWA/HHA/HHU/HHI/HHAA/HHEE
1215 ETHIOPIC SYLLABLE /HHE/HHO/HHWA/MA/MU/MI/MAA/MEE/ME/MO/MWA/SZA/SZU/SZI/SZAA/SZEE/SZE/SZO/SZWA
1228 ETHIOPIC SYLLABLE /RA/RU/RI/RAA/REE/RE/RO/RWA/SA/SU/SI/SAA/SEE/SE/SO/SWA/SHA/SHU/SHI/SHAA/SHEE
123D ETHIOPIC SYLLABLE /SHE/SHO/SHWA/QA/QU/QI/QAA/QEE/QE/QO/QOA/QWA
124A ETHIOPIC SYLLABLE /QWI/QWAA/QWEE/QWE
1250 ETHIOPIC SYLLABLE /QHA/QHU/QHI/QHAA/QHEE/QHE/QHO
1258 /ETHIOPIC SYLLABLE QHWA
125A ETHIOPIC SYLLABLE /QHWI/QHWAA/QHWEE/QHWE
1260 ETHIOPIC SYLLABLE /BA/BU/BI/BAA/BEE/BE/BO/BWA/VA/VU/VI/VAA/VEE/VE/VO/VWA/TA/TU/TI/TAA/TEE/TE
1276 ETHIOPIC SYLLABLE /TO/TWA/CA/CU/CI/CAA/CEE/CE/CO/CWA/XA/XU/XI/XAA/XEE/XE/XO/XOA/XWA
128A ETHIOPIC SYLLABLE /XWI/XWAA/XWEE/XWE
1290 ETHIOPIC SYLLABLE /NA/NU/NI/NAA/NEE/NE/NO/NWA/NYA/NYU/NYI/NYAA/NYEE/NYE/NYO/NYWA
12A0 ETHIOPIC SYLLABLE GLOTTAL /A/U/I/AA/EE/E/O/WA
12A8 ETHIOPIC SYLLABLE /KA/KU/KI/KAA/KEE/KE/KO/KOA/KWA
12B2 ETHIOPIC SYLLABLE /KWI/KWAA/KWEE/KWE
12B8 ETHIOPIC SYLLABLE /KXA/KXU/KXI/KXAA/KXEE/KXE/KXO
12C0 /ETHIOPIC SYLLABLE KXWA
12C2 ETHIOPIC SYLLABLE /KXWI/KXWAA/KXWEE/KXWE
12C8 ETHIOPIC SYLLABLE /WA/WU/WI/WAA/WEE/WE/WO/WOA
12D0 ETHIOPIC SYLLABLE PHARYNGEAL /A/U/I/AA/EE/E/O
12D8 ETHIOPIC SYLLABLE /ZA/ZU/ZI/ZAA/ZEE/ZE/ZO/ZWA/ZHA/ZHU/ZHI/ZHAA/ZHEE/ZHE/ZHO/ZHWA/YA/YU/YI/YAA
12EC ETHIOPIC SYLLABLE /YEE/YE/YO/YOA/DA/DU/DI/DAA/DEE/DE/DO/DWA/DDA/DDU/DDI/DDAA/DDEE/DDE/DDO/DDWA
1300 ETHIOPIC SYLLABLE /JA/JU/JI/JAA/JEE/JE/JO/JWA/GA/GU/GI/GAA/GEE/GE/GO/GOA/GWA
1312 ETHIOPIC SYLLABLE /GWI/GWAA/GWEE/GWE
1318 ETHIOPIC SYLLABLE /GGA/GGU/GGI/GGAA/GGEE/GGE/GGO/GGWAA/THA/THU/THI/THAA/THEE/THE/THO/THWA/CHA
1329 ETHIOPIC SYLLABLE /CHU/CHI/CHAA/CHEE/CHE/CHO/CHWA/PHA/PHU/PHI/PHAA/PHEE/PHE/PHO/PHWA/TSA/TSU
133A ETHIOPIC SYLLABLE /TSI/TSAA/TSEE/TSE/TSO/TSWA/TZA/TZU/TZI/TZAA/TZEE/TZE/TZO/TZOA/FA/FU/FI/FAA
134C ETHIOPIC SYLLABLE /FEE/FE/FO/FWA/PA/PU/PI/PAA/PEE/PE/PO/PWA/RYA/MYA/FYA
135D ETHIOPIC COMBINING /GEMINATION AND VOWEL LENGTH MARK/VOWEL LENGTH MARK/GEMINATION MARK
1360 ETHIOPIC /SECTION MARK/WORDSPACE/FULL STOP/COMMA/SEMICOLON/COLON/PREFACE COLON/QUESTION MARK
1368 /ETHIOPIC PARAGRAPH SEPARATOR
1369 ETHIOPIC DIGIT /ONE/TWO/THREE/FOUR/FIVE/SIX/SEVEN/EIGHT/NINE
1372 ETHIOPIC NUMBER /TEN/TWENTY/THIRTY/FORTY/FIFTY/SIXTY/SEVENTY/EIGHTY/NINETY/HUNDRED
137C /ETHIOPIC NUMBER TEN THOUSAND
1380 ETHIOPIC SYLLABLE /SEBATBEIT MWA/MWI/MWEE/MWE/SEBATBEIT BWA/BWI/BWEE/BWE/SEBATBEIT FWA/FWI
138A ETHIOPIC SYLLABLE /FWEE/FWE/SEBATBEIT PWA/PWI/PWEE/PWE
1390 ETHIOPIC TONAL MARK /YIZET/DERET/RIKRIK/SHORT RIKRIK/DIFAT/KENAT/CHIRET/HIDET/DERET-HIDET/KURT
13A0 CHEROKEE LETTER /A/E/I/O/U/V/GA/KA/GE/GI/GO/GU/GV/HA/HE/HI/HO/HU/HV/LA/LE/LI/LO/LU/LV/MA/ME/MI
13BC CHEROKEE LETTER /MO/MU/NA/HNA/NAH/NE/NI/NO/NU/NV/QUA/QUE/QUI/QUO/QUU/QUV/SA/S/SE/SI/SO/SU/SV
13D3 CHEROKEE LETTER /DA/TA/DE/TE/DI/TI/DO/DU/DV/DLA/TLA/TLE/TLI/TLO/TLU/TLV/TSA/TSE/TSI/TSO/TSU
13E8 CHEROKEE LETTER /TSV/WA/WE/WI/WO/WU/WV/YA/YE/YI/YO/YU/YV/MV
13F8 CHEROKEE SMALL LETTER /YE/YI/YO/YU/YV/MV
1400 CANADIAN SYLLABICS /HYPHEN/E/AAI/I/II/O/OO/Y-CREE OO/CARRIER EE/CARRIER I/A/AA/WE/WEST-CREE WE
140E CANADIAN SYLLABICS /WI/WEST-CREE WI/WII/WEST-CREE WII/WO/WEST-CREE WO/WOO/WEST-CREE WOO
1416 CANADIAN SYLLABICS /NASKAPI WOO/WA/WEST-CREE WA/WAA/WEST-CREE WAA/NASKAPI WAA/AI/Y-CREE W
141E /CANADIAN SYLLABICS GLOTTAL STOP
141F CANADIAN SYLLABICS FINAL /ACUTE/GRAVE/BOTTOM HALF RING/TOP HALF RING/RIGHT HALF RING/RING
1425 CANADIAN SYLLABICS FINAL DOUBLE /ACUTE/SHORT VERTICAL STROKES
1427 CANADIAN SYLLABICS FINAL /MIDDLE DOT/SHORT HORIZONTAL STROKE/PLUS/DOWN TACK
142B CANADIAN SYLLABICS /EN/IN/ON/AN/PE/PAAI/PI/PII/PO/POO/Y-CREE POO/CARRIER HEE/CARRIER HI/PA/PAA
143A CANADIAN SYLLABICS /PWE/WEST-CREE PWE/PWI/WEST-CREE PWI/PWII/WEST-CREE PWII/PWO/WEST-CREE PWO
1442 CANADIAN SYLLABICS /PWOO/WEST-CREE PWOO/PWA/WEST-CREE PWA/PWAA/WEST-CREE PWAA/Y-CREE PWAA/P
144A CANADIAN SYLLABICS /WEST-CREE P/CARRIER H/TE/TAAI/TI/TII/TO/TOO/Y-CREE TOO
1453 CANADIAN SYLLABICS CARRIER /DEE/DI
1455 CANADIAN SYLLABICS /TA/TAA/TWE/WEST-CREE TWE/TWI/WEST-CREE TWI/TWII/WEST-CREE TWII/TWO
145E CANADIAN SYLLABICS /WEST-CREE TWO/TWOO/WEST-CREE TWOO/TWA/WEST-CREE TWA/TWAA/WEST-CREE TWAA
1465 CANADIAN SYLLABICS /NASKAPI TWAA/T/TTE/TTI/TTO/TTA/KE/KAAI/KI/KII/KO/KOO/Y-CREE KOO/KA/KAA/KWE
1475 CANADIAN SYLLABICS /WEST-CREE KWE/KWI/WEST-CREE KWI/KWII/WEST-CREE KWII/KWO/WEST-CREE KWO/KWOO
147D CANADIAN SYLLABICS /WEST-CREE KWOO/KWA/WEST-CREE KWA/KWAA/WEST-CREE KWAA/NASKAPI KWAA/K/KW
1485 CANADIAN SYLLABICS SOUTH-SLAVEY /KEH/KIH/KOH/KAH
1489 CANADIAN SYLLABICS /CE/CAAI/CI/CII/CO/COO/Y-CREE COO/CA/CAA/CWE/WEST-CREE CWE/CWI
1495 CANADIAN SYLLABICS /WEST-CREE CWI/CWII/WEST-CREE CWII/CWO/WEST-CREE CWO/CWOO/WEST-CREE CWOO
149C CANADIAN SYLLABICS /CWA/WEST-CREE CWA/CWAA/WEST-CREE CWAA/NASKAPI CWAA/C/SAYISI TH/ME/MAAI/MI
14A6 CANADIAN SYLLABICS /MII/MO/MOO/Y-CREE MOO/MA/MAA/MWE/WEST-CREE MWE/MWI/WEST-CREE MWI/MWII
14B1 CANADIAN SYLLABICS /WEST-CREE MWII/MWO/WEST-CREE MWO/MWOO/WEST-CREE MWOO/MWA/WEST-CREE MWA
14B8 CANADIAN SYLLABICS /MWAA/WEST-CREE MWAA/NASKAPI MWAA/M/WEST-CREE M/MH/ATHAPASCAN M/SAYISI M/NE
14C1 CANADIAN SYLLABICS /NAAI/NI/NII/NO/NOO/Y-CREE NOO/NA/NAA/NWE/WEST-CREE NWE/NWA/WEST-CREE NWA
14CD CANADIAN SYLLABICS /NWAA/WEST-CREE NWAA/NASKAPI NWAA/N/CARRIER NG/NH/LE/LAAI/LI/LII/LO/LOO
14D9 CANADIAN SYLLABICS /Y-CREE LOO/LA/LAA/LWE/WEST-CREE LWE/LWI/WEST-CREE LWI/LWII/WEST-CREE LWII
14E2 CANADIAN SYLLABICS /LWO/WEST-CREE LWO/LWOO/WEST-CREE LWOO/LWA/WEST-CREE LWA/LWAA
14E9 CANADIAN SYLLABICS /WEST-CREE LWAA/L/WEST-CREE L/MEDIAL L/SE/SAAI/SI/SII/SO/SOO/Y-CREE SOO/SA
14F5 CANADIAN SYLLABICS /SAA/SWE/WEST-CREE SWE/SWI/WEST-CREE SWI/SWII/WEST-CREE SWII/SWO
14FD CANADIAN SYLLABICS /WEST-CREE SWO/SWOO/WEST-CREE SWOO/SWA/WEST-CREE SWA/SWAA/WEST-CREE SWAA
1504 CANADIAN SYLLABICS /NASKAPI SWAA/S/ATHAPASCAN S/SW/BLACKFOOT S/MOOSE-CREE SK
150A CANADIAN SYLLABICS NASKAPI /SKW/S-W/SPWA/STWA/SKWA/SCWA
1510 CANADIAN SYLLABICS /SHE/SHI/SHII/SHO/SHOO/SHA/SHAA/SHWE/WEST-CREE SHWE/SHWI/WEST-CREE SHWI
151B CANADIAN SYLLABICS /SHWII/WEST-CREE SHWII/SHWO/WEST-CREE SHWO/SHWOO/WEST-CREE SHWOO/SHWA
1522 CANADIAN SYLLABICS /WEST-CREE SHWA/SHWAA/WEST-CREE SHWAA/SH/YE/YAAI/YI/YII/YO/YOO/Y-CREE YOO
152D CANADIAN SYLLABICS /YA/YAA/YWE/WEST-CREE YWE/YWI/WEST-CREE YWI/YWII/WEST-CREE YWII/YWO
1536 CANADIAN SYLLABICS /WEST-CREE YWO/YWOO/WEST-CREE YWOO/YWA/WEST-CREE YWA/YWAA/WEST-CREE YWAA
153D CANADIAN SYLLABICS /NASKAPI YWAA/Y/BIBLE-CREE Y/WEST-CREE Y/SAYISI YI/RE/R-CREE RE
1544 CANADIAN SYLLABICS /WEST-CREE LE/RAAI/RI/RII/RO/ROO/WEST-CREE LO/RA/RAA/WEST-CREE LA/RWAA
154F CANADIAN SYLLABICS /WEST-CREE RWAA/R/WEST-CREE R/MEDIAL R/FE/FAAI/FI/FII/FO/FOO/FA/FAA/FWAA
155C CANADIAN SYLLABICS /WEST-CREE FWAA/F/THE/N-CREE THE/THI/N-CREE THI/THII/N-CREE THII/THO/THOO
1566 CANADIAN SYLLABICS /THA/THAA/THWAA/WEST-CREE THWAA/TH/TTHE/TTHI/TTHO/TTHA/TTH/TYE/TYI/TYO/TYA
1574 CANADIAN SYLLABICS NUNAVIK /HE/HI/HII/HO/HOO/HA/HAA/H
157C CANADIAN SYLLABICS /NUNAVUT H/HK/QAAI/QI/QII/QO/QOO/QA/QAA/Q/TLHE/TLHI/TLHO/TLHA
158A CANADIAN SYLLABICS WEST-CREE /RE/RI/RO/RA
158E CANADIAN SYLLABICS /NGAAI/NGI/NGII/NGO/NGOO/NGA/NGAA/NG/NNG
1597 CANADIAN SYLLABICS SAYISI /SHE/SHI/SHO/SHA
159B CANADIAN SYLLABICS WOODS-CREE /THE/THI/THO/THA/TH
15A0 CANADIAN SYLLABICS /LHI/LHII/LHO/LHOO/LHA/LHAA/LH
15A7 CANADIAN SYLLABICS TH-CREE /THE/THI/THII/THO/THOO/THA/THAA/TH
15AF /CANADIAN SYLLABICS AIVILIK B
15B0 CANADIAN SYLLABICS BLACKFOOT /E/I/O/A/WE/WI/WO/WA/NE/NI/NO/NA/KE/KI/KO/KA
15C0 CANADIAN SYLLABICS SAYISI /HE/HI/HO/HA
15C4 CANADIAN SYLLABICS CARRIER /GHU/GHO/GHE/GHEE/GHI/GHA/RU/RO/RE/REE/RI/RA/WU/WO/WE/WEE/WI/WA/HWU
15D7 CANADIAN SYLLABICS CARRIER /HWO/HWE/HWEE/HWI/HWA/THU/THO/THE/THEE/THI/THA/TTU/TTO/TTE/TTEE/TTI
15E7 CANADIAN SYLLABICS CARRIER /TTA/PU/PO/PE/PEE/PI/PA/P/GU/GO/GE/GEE/GI/GA/KHU/KHO/KHE/KHEE/KHI
15FA CANADIAN SYLLABICS CARRIER /KHA/KKU/KKO/KKE/KKEE/KKI/KKA/KK/NU/NO/NE/NEE/NI/NA/MU/MO/ME/MEE/MI
160D CANADIAN SYLLABICS CARRIER /MA/YU/YO/YE/YEE/YI/YA/JU
1615 CANADIAN SYLLABICS /SAYISI JU/CARRIER JO/CARRIER JE/CARRIER JEE/CARRIER JI/SAYISI JI
161B CANADIAN SYLLABICS CARRIER /JA/JJU/JJO/JJE/JJEE/JJI/JJA/LU/LO/LE/LEE/LI/LA/DLU/DLO/DLE/DLEE
162C CANADIAN SYLLABICS CARRIER /DLI/DLA/LHU/LHO/LHE/LHEE/LHI/LHA/TLHU/TLHO/TLHE/TLHEE/TLHI/TLHA
163A CANADIAN SYLLABICS CARRIER /TLU/TLO/TLE/TLEE/TLI/TLA/ZU/ZO/ZE/ZEE/ZI/ZA/Z/INITIAL Z/DZU/DZO
164A CANADIAN SYLLABICS CARRIER /DZE/DZEE/DZI/DZA/SU/SO/SE/SEE/SI/SA/SHU/SHO/SHE/SHEE/SHI/SHA/SH
165B CANADIAN SYLLABICS CARRIER /TSU/TSO/TSE/TSEE/TSI/TSA/CHU/CHO/CHE/CHEE/CHI/CHA/TTSU/TTSO/TTSE
166A CANADIAN SYLLABICS CARRIER /TTSEE/TTSI/TTSA
166D CANADIAN SYLLABICS /CHI SIGN/FULL STOP/QAI/NGAI/NNGI/NNGII/NNGO/NNGOO/NNGA/NNGAA
1677 CANADIAN SYLLABICS WOODS-CREE /THWEE/THWI/THWII/THWO/THWOO/THWA/THWAA/FINAL TH
167F /CANADIAN SYLLABICS BLACKFOOT W/OGHAM SPACE MARK
1681 OGHAM LETTER /BEITH/LUIS/FEARN/SAIL/NION/UATH/DAIR/TINNE/COLL/CEIRT/MUIN/GORT/NGEADAL/STRAIF
168F OGHAM LETTER /RUIS/AILM/ONN/UR/EADHADH/IODHADH/EABHADH/OR/UILLEANN/IFIN/EAMHANCHOLL/PEITH
169B OGHAM /FEATHER MARK/REVERSED FEATHER MARK
16A0 RUNIC LETTER /FEHU FEOH FE F/V/URUZ UR U/YR/Y/W/THURISAZ THURS THORN/ETH/ANSUZ A/OS O/AC A
16AB RUNIC LETTER /AESC/LONG-BRANCH-OSS O/SHORT-TWIG-OSS O/O/OE/ON/RAIDO RAD REID R/KAUNA/CEN
16B4 RUNIC LETTER /KAUN K/G/ENG/GEBO GYFU G/GAR/WUNJO WYNN W/HAGLAZ H/HAEGL H/LONG-BRANCH-HAGALL H
16BD RUNIC LETTER /SHORT-TWIG-HAGALL H/NAUDIZ NYD NAUD N/SHORT-TWIG-NAUD N/DOTTED-N/ISAZ IS ISS I/E
16C3 RUNIC LETTER /JERAN J/GER/LONG-BRANCH-AR AE/SHORT-TWIG-AR A/IWAZ EOH/PERTHO PEORTH P
16C9 RUNIC LETTER /ALGIZ EOLHX/SOWILO S/SIGEL LONG-BRANCH-SOL S/SHORT-TWIG-SOL S/C/Z
16CF RUNIC LETTER /TIWAZ TIR TYR T/SHORT-TWIG-TYR T/D/BERKANAN BEORC BJARKAN B/SHORT-TWIG-BJARKAN B
16D4 RUNIC LETTER /DOTTED-P/OPEN-P/EHWAZ EH E/MANNAZ MAN M/LONG-BRANCH-MADR M/SHORT-TWIG-MADR M
16DA RUNIC LETTER /LAUKAZ LAGU LOGR L/DOTTED-L/INGWAZ/ING/DAGAZ DAEG D/OTHALAN ETHEL O/EAR/IOR
16E2 RUNIC LETTER /CWEORTH/CALC/CEALC/STAN/LONG-BRANCH-YR/SHORT-TWIG-YR/ICELANDIC-YR/Q/X
16EB RUNIC /SINGLE PUNCTUATION/MULTIPLE PUNCTUATION/CROSS PUNCTUATION/ARLAUG SYMBOL/TVIMADUR SYMBOL
16F0 /RUNIC BELGTHOR SYMBOL
16F1 RUNIC LETTER /K/SH/OO
16F4 RUNIC LETTER FRANKS CASKET /OS/IS/EH/AC/AESC
1700 TAGALOG LETTER /A/I/U/KA/GA/NGA/TA/DA/NA/PA/BA/MA/YA/RA/LA/WA/SA/HA
1712 TAGALOG VOWEL SIGN /I/U
1714 TAGALOG SIGN /VIRAMA/PAMUDPOD
171F /TAGALOG LETTER ARCHAIC RA
1720 HANUNOO LETTER /A/I/U/KA/GA/NGA/TA/DA/NA/PA/BA/MA/YA/RA/LA/WA/SA/HA
1732 HANUNOO /VOWEL SIGN I/VOWEL SIGN U/SIGN PAMUDPOD
1735 PHILIPPINE /SINGLE PUNCTUATION/DOUBLE PUNCTUATION
1740 BUHID LETTER /A/I/U/KA/GA/NGA/TA/DA/NA/PA/BA/MA/YA/RA/LA/WA/SA/HA
1752 BUHID VOWEL SIGN /I/U
1760 TAGBANWA LETTER /A/I/U/KA/GA/NGA/TA/DA/NA/PA/BA/MA/YA
176E TAGBANWA LETTER /LA/WA/SA
1772 TAGBANWA VOWEL SIGN /I/U
1780 KHMER LETTER /KA/KHA/KO/KHO/NGO/CA/CHA/CO/CHO/NYO/DA/TTHA/DO/TTHO/NNO/TA/THA/TO/THO/NO/BA/PHA
1796 KHMER LETTER /PO/PHO/MO/YO/RO/LO/VO/SHA/SSO/SA/HA/LA/QA
17A3 KHMER INDEPENDENT VOWEL /QAQ/QAA/QI/QII/QU/QUK/QUU/QUUV/RY/RYY/LY/LYY/QE/QAI/QOO TYPE ONE
17B2 KHMER INDEPENDENT VOWEL /QOO TYPE TWO/QAU
17B4 KHMER VOWEL INHERENT /AQ/AA
17B6 KHMER VOWEL SIGN /AA/I/II/Y/YY/U/UU/UA/OE/YA/IE/E/AE/AI/OO/AU
17C6 KHMER SIGN /NIKAHIT/REAHMUK/YUUKALEAPINTU/MUUSIKATOAN/TRIISAP/BANTOC/ROBAT/TOANDAKHIAT/KAKABAT
17CF KHMER SIGN /AHSDA/SAMYOK SANNYA/VIRIAM/COENG/BATHAMASAT/KHAN/BARIYOOSAN/CAMNUC PII KUUH
17D7 KHMER SIGN /LEK TOO/BEYYAL/PHNAEK MUAN/KOOMUUT
17DB KHMER /CURRENCY SYMBOL RIEL/SIGN AVAKRAHASANYA/SIGN ATTHACAN
17E0 KHMER DIGIT /ZERO/ONE/TWO/THREE/FOUR/FIVE/SIX/SEVEN/EIGHT/NINE
17F0 KHMER SYMBOL LEK ATTAK /SON/MUOY/PII/BEI/BUON/PRAM/PRAM-MUOY/PRAM-PII/PRAM-BEI/PRAM-BUON
1800 MONGOLIAN /BIRGA/ELLIPSIS/COMMA/FULL STOP/COLON/FOUR DOTS/TODO SOFT HYPHEN
1807 MONGOLIAN /SIBE SYLLABLE BOUNDARY MARKER/MANCHU COMMA/MANCHU FULL STOP/NIRUGU
180B MONGOLIAN FREE VARIATION SELECTOR /ONE/TWO/THREE
180E MONGOLIAN /VOWEL SEPARATOR/FREE VARIATION SELECTOR FOUR
1810 MONGOLIAN DIGIT /ZERO/ONE/TWO/THREE/FOUR/FIVE/SIX/SEVEN/EIGHT/NINE
1820 MONGOLIAN LETTER /A/E/I/O/U/OE/UE/EE/NA/ANG/BA/PA/QA/GA/MA/LA/SA/SHA/TA/DA/CHA/JA/YA/RA/WA/FA
183A MONGOLIAN LETTER /KA/KHA/TSA/ZA/HAA/ZRA/LHA/ZHI/CHI
1843 MONGOLIAN LETTER TODO /LONG VOWEL SIGN/E/I/O/U/OE/UE/ANG/BA/PA/QA/GA/MA/TA/DA/CHA/JA/TSA/YA/WA
1857 MONGOLIAN LETTER TODO /KA/GAA/HAA/JIA/NIA/DZA
185D MONGOLIAN LETTER SIBE /E/I/IY/UE/U/ANG/KA/GA/HA/PA/SHA/TA/DA/JA/FA/GAA/HAA/TSA/ZA/RAA/CHA/ZHA
1873 MONGOLIAN LETTER MANCHU /I/KA/RA/FA/ZHA
1878 /MONGOLIAN LETTER CHA WITH TWO DOTS
1880 MONGOLIAN LETTER ALI GALI /ANUSVARA ONE/VISARGA ONE/DAMARU/UBADAMA/INVERTED UBADAMA/BALUDA
1886 MONGOLIAN LETTER ALI GALI /THREE BALUDA/A/I/KA/NGA/CA/TTA/TTHA/DDA/NNA/TA/DA/PA/PHA/SSA/ZHA/ZA
1897 MONGOLIAN LETTER /ALI GALI AH/TODO ALI GALI TA/TODO ALI GALI ZHA
189A MONGOLIAN LETTER MANCHU ALI GALI /GHA/NGA/CA/JHA/TTA/DDHA/TA/DHA/SSA/CYA/ZHA/ZA
18A6 MONGOLIAN LETTER ALI GALI HALF /U/YA
18A8 MONGOLIAN LETTER /MANCHU ALI GALI BHA/ALI GALI DAGALGA/MANCHU ALI GALI LHA
18B0 CANADIAN SYLLABICS /OY/AY/AAY/WAY/POY/PAY/PWOY/TAY/KAY/KWAY/MAY/NOY/NAY/LAY/SOY/SAY/SHOY/SHAY
18C2 CANADIAN SYLLABICS /SHWOY/YOY/YAY/RAY/NWI/OJIBWAY NWI/NWII/OJIBWAY NWII/NWO/OJIBWAY NWO/NWOO
18CD CANADIAN SYLLABICS /OJIBWAY NWOO/RWEE/RWI/RWII/RWO/RWOO/RWA
18D4 CANADIAN SYLLABICS OJIBWAY /P/T/K/C/M/N/S/SH
18DC CANADIAN SYLLABICS /EASTERN W/WESTERN W/FINAL SMALL RING/FINAL RAISED DOT/R-CREE RWE
18E1 CANADIAN SYLLABICS /WEST-CREE LOO/WEST-CREE LAA/THWE/THWA/TTHWE/TTHOO/TTHAA/TLHWE/TLHOO
18EA CANADIAN SYLLABICS SAYISI /SHWE/SHOO/HOO
18ED CANADIAN SYLLABICS CARRIER /GWU/DENE GEE/GAA/GWA
18F1 CANADIAN SYLLABICS /SAYISI JUU/CARRIER JWA/BEAVER DENE L/BEAVER DENE R/CARRIER DENTAL S
1900 /LIMBU VOWEL-CARRIER LETTER
1901 LIMBU LETTER /KA/KHA/GA/GHA/NGA/CA/CHA/JA/JHA/YAN/TA/THA/DA/DHA/NA/PA/PHA/BA/BHA/MA/YA/RA/LA
1918 LIMBU LETTER /WA/SHA/SSA/SA/HA/GYAN/TRA
1920 LIMBU VOWEL SIGN /A/I/U/EE/AI/OO/AU/E/O
1929 LIMBU SUBJOINED LETTER /YA/RA/WA
1930 LIMBU SMALL LETTER /KA/NGA/ANUSVARA/TA/NA/PA/MA/RA/LA
1939 LIMBU SIGN /MUKPHRENG/KEMPHRENG/SA-I
1940 /LIMBU SIGN LOO
1944 LIMBU /EXCLAMATION MARK/QUESTION MARK
1946 LIMBU DIGIT /ZERO/ONE/TWO/THREE/FOUR/FIVE/SIX/SEVEN/EIGHT/NINE
1950 TAI LE LETTER /KA/XA/NGA/TSA/SA/YA/TA/THA/LA/PA/PHA/MA/FA/VA/HA/QA/KHA/TSHA/NA/A/I/EE/EH/U/OO
1969 TAI LE LETTER /O/UE/E/AUE/AI
1970 TAI LE LETTER TONE-/2/3/4/5/6
1980 NEW TAI LUE LETTER /HIGH QA/LOW QA/HIGH KA/HIGH XA/HIGH NGA/LOW KA/LOW XA/LOW NGA/HIGH TSA
1989 NEW TAI LUE LETTER /HIGH SA/HIGH YA/LOW TSA/LOW SA/LOW YA/HIGH TA/HIGH THA/HIGH NA/LOW TA
1992 NEW TAI LUE LETTER /LOW THA/LOW NA/HIGH PA/HIGH PHA/HIGH MA/LOW PA/LOW PHA/LOW MA/HIGH FA
199B NEW TAI LUE LETTER /HIGH VA/HIGH LA/LOW FA/LOW VA/LOW LA/HIGH HA/HIGH DA/HIGH BA/LOW HA/LOW DA
19A5 NEW TAI LUE LETTER /LOW BA/HIGH KVA/HIGH XVA/LOW KVA/LOW XVA/HIGH SUA/LOW SUA
19B0 NEW TAI LUE VOWEL SIGN /VOWEL SHORTENER/AA/II/U/UU/E/AE/O/OA/UE/AY/AAY/UY/OY/OAY/UEY/IY
19C1 NEW TAI LUE LETTER FINAL /V/NG/N/M/K/D/B
19C8 NEW TAI LUE TONE MARK-/1/2
19D0 NEW TAI LUE DIGIT /ZERO/ONE/TWO/THREE/FOUR/FIVE/SIX/SEVEN/EIGHT/NINE
19DA /NEW TAI LUE THAM DIGIT ONE
19DE NEW TAI LUE SIGN /LAE/LAEV
19E0 KHMER SYMBOL /PATHAMASAT/MUOY KOET/PII KOET/BEI KOET/BUON KOET/PRAM KOET/PRAM-MUOY KOET
19E7 KHMER SYMBOL /PRAM-PII KOET/PRAM-BEI KOET/PRAM-BUON KOET/DAP KOET/DAP-MUOY KOET/DAP-PII KOET
19ED KHMER SYMBOL /DAP-BEI KOET/DAP-BUON KOET/DAP-PRAM KOET/TUTEYASAT/MUOY ROC/PII ROC/BEI ROC
19F4 KHMER SYMBOL /BUON ROC/PRAM ROC/PRAM-MUOY ROC/PRAM-PII ROC/PRAM-BEI ROC/PRAM-BUON ROC/DAP ROC
19FB KHMER SYMBOL DAP-/MUOY ROC/PII ROC/BEI ROC/BUON ROC/PRAM ROC
1A00 BUGINESE LETTER /KA/GA/NGA/NGKA/PA/BA/MA/MPA/TA/DA/NA/NRA/CA/JA/NYA/NYCA/YA/RA/LA/VA/SA/A/HA
1A17 BUGINESE VOWEL SIGN /I/U/E/O/AE
1A1E BUGINESE /PALLAWA/END OF SECTION
1A20 TAI THAM LETTER HIGH /KA/KHA/KXA
1A23 TAI THAM LETTER /LOW KA/LOW KXA/LOW KHA/NGA/HIGH CA/HIGH CHA/LOW CA/LOW SA/LOW CHA/NYA/RATA
1A2E TAI THAM LETTER /HIGH RATHA/DA/LOW RATHA/RANA/HIGH TA/HIGH THA/LOW TA/LOW THA/NA/BA/HIGH PA
1A39 TAI THAM LETTER /HIGH PHA/HIGH FA/LOW PA/LOW FA/LOW PHA/MA/LOW YA/HIGH YA/RA/RUE/LA/LUE/WA
1A46 TAI THAM LETTER /HIGH SHA/HIGH SSA/HIGH SA/HIGH HA/LLA/A/LOW HA/I/II/U/UU/EE/OO/LAE/GREAT SA
1A55 TAI THAM CONSONANT SIGN /MEDIAL RA/MEDIAL LA/LA TANG LAI
1A58 /TAI THAM SIGN MAI KANG LAI
1A59 TAI THAM CONSONANT SIGN /FINAL NGA/LOW PA/HIGH RATHA OR LOW PA/MA/BA/SA
1A60 /TAI THAM SIGN SAKOT
1A61 TAI THAM VOWEL SIGN /A/MAI SAT/AA/TALL AA/I/II/UE/UUE/U/UU/O/OA BELOW/OY/E/AE/OO/AI/THAM AI
1A73 TAI THAM /VOWEL SIGN OA ABOVE/SIGN MAI KANG/SIGN TONE-1
1A76 TAI THAM SIGN /TONE-2/KHUEN TONE-3/KHUEN TONE-4/KHUEN TONE-5/RA HAAM/MAI SAM/KHUEN-LUE KARAN
1A7F /TAI THAM COMBINING CRYPTOGRAMMIC DOT
1A80 TAI THAM HORA DIGIT /ZERO/ONE/TWO/THREE/FOUR/FIVE/SIX/SEVEN/EIGHT/NINE
1A90 TAI THAM THAM DIGIT /ZERO/ONE/TWO/THREE/FOUR/FIVE/SIX/SEVEN/EIGHT/NINE
1AA0 TAI THAM SIGN /WIANG/WIANGWAAK/SAWAN/KEOW/HOY/DOKMAI/REVERSED ROTATED RANA/MAI YAMOK/KAAN
1AA9 TAI THAM SIGN /KAANKUU/SATKAAN/SATKAANKUU/HANG/CAANG
1AB0 COMBINING /DOUBLED CIRCUMFLEX ACCENT/DIAERESIS-RING/INFINITY/DOWNWARDS ARROW/TRIPLE DOT
1AB5 COMBINING /X-X BELOW/WIGGLY LINE BELOW/OPEN MARK BELOW/DOUBLE OPEN MARK BELOW
1AB9 COMBINING /LIGHT CENTRALIZATION STROKE BELOW/STRONG CENTRALIZATION STROKE BELOW
1ABB COMBINING /PARENTHESES ABOVE/DOUBLE PARENTHESES ABOVE/PARENTHESES BELOW/PARENTHESES OVERLAY
1ABF COMBINING LATIN SMALL LETTER /W BELOW/TURNED W BELOW
1AC1 COMBINING /LEFT PARENTHESIS ABOVE LEFT/RIGHT PARENTHESIS ABOVE RIGHT
1AC3 COMBINING /LEFT PARENTHESIS BELOW LEFT/RIGHT PARENTHESIS BELOW RIGHT/SQUARE BRACKETS ABOVE
1AC6 COMBINING /NUMBER SIGN ABOVE/INVERTED DOUBLE ARCH ABOVE/PLUS SIGN ABOVE
1AC9 COMBINING DOUBLE PLUS SIGN /ABOVE/BELOW
1ACB /COMBINING TRIPLE ACUTE ACCENT
1ACC COMBINING LATIN SMALL LETTER INSULAR /G/R/T
1B00 BALINESE SIGN /ULU RICEM/ULU CANDRA/CECEK/SURANG/BISAH
1B05 BALINESE LETTER /AKARA/AKARA TEDUNG/IKARA/IKARA TEDUNG/UKARA/UKARA TEDUNG/RA REPA
1B0C BALINESE LETTER /RA REPA TEDUNG/LA LENGA/LA LENGA TEDUNG/EKARA/AIKARA/OKARA/OKARA TEDUNG/KA
1B14 BALINESE LETTER /KA MAHAPRANA/GA/GA GORA/NGA/CA/CA LACA/JA/JA JERA/NYA/TA LATIK
1B1E BALINESE LETTER /TA MURDA MAHAPRANA/DA MURDA ALPAPRANA/DA MURDA MAHAPRANA/NA RAMBAT/TA/TA TAWA
1B24 BALINESE LETTER /DA/DA MADU/NA/PA/PA KAPAL/BA/BA KEMBANG/MA/YA/RA/LA/WA/SA SAGA/SA SAPA/SA/HA
1B34 /BALINESE SIGN REREKAN
1B35 BALINESE VOWEL SIGN /TEDUNG/ULU/ULU SARI/SUKU/SUKU ILUT/RA REPA/RA REPA TEDUNG/LA LENGA
1B3D BALINESE VOWEL SIGN /LA LENGA TEDUNG/TALING/TALING REPA/TALING TEDUNG/TALING REPA TEDUNG/PEPET
1B43 BALINESE /VOWEL SIGN PEPET TEDUNG/ADEG ADEG/LETTER KAF SASAK
1B46 BALINESE LETTER /KHOT SASAK/TZIR SASAK/EF SASAK/VE SASAK/ZAL SASAK/ASYURA SASAK/ARCHAIC JNYA
1B50 BALINESE DIGIT /ZERO/ONE/TWO/THREE/FOUR/FIVE/SIX/SEVEN/EIGHT/NINE
1B5A BALINESE /PANTI/PAMADA/WINDU/CARIK PAMUNGKAH/CARIK SIKI/CARIK PAREREN/PAMENENG
1B61 BALINESE MUSICAL SYMBOL /DONG/DENG/DUNG/DANG/DANG SURANG/DING/DAENG/DEUNG/DAING/DANG GEDE
1B6B BALINESE MUSICAL SYMBOL COMBINING /TEGEH/ENDEP/KEMPUL/KEMPLI/JEGOGAN/KEMPUL WITH JEGOGAN
1B71 BALINESE MUSICAL SYMBOL COMBINING /KEMPLI WITH JEGOGAN/BENDE/GONG
1B74 BALINESE MUSICAL SYMBOL RIGHT-HAND /OPEN DUG/OPEN DAG/CLOSED TUK/CLOSED TAK
1B78 BALINESE MUSICAL SYMBOL LEFT-HAND /OPEN PANG/OPEN PUNG/CLOSED PLAK/CLOSED PLUK/OPEN PING
1B7D BALINESE /PANTI LANTANG/PAMADA LANTANG
1B80 SUNDANESE SIGN /PANYECEK/PANGLAYAR/PANGWISAD
1B83 SUNDANESE LETTER /A/I/U/AE/O/E/EU/KA/QA/GA/NGA/CA/JA/ZA/NYA/TA/DA/NA/PA/FA/VA/BA/MA/YA/RA/LA
1B9D SUNDANESE LETTER /WA/SA/XA/HA
1BA1 SUNDANESE CONSONANT SIGN /PAMINGKAL/PANYAKRA/PANYIKU
1BA4 SUNDANESE VOWEL SIGN /PANGHULU/PANYUKU/PANAELAENG/PANOLONG/PAMEPET/PANEULEUNG
1BAA SUNDANESE SIGN /PAMAAEH/VIRAMA
1BAC SUNDANESE CONSONANT SIGN PASANGAN /MA/WA
1BAE SUNDANESE LETTER /KHA/SYA
1BB0 SUNDANESE DIGIT /ZERO/ONE/TWO/THREE/FOUR/FIVE/SIX/SEVEN/EIGHT/NINE
1BBA /SUNDANESE AVAGRAHA
1BBB SUNDANESE LETTER /REU/LEU/BHA/FINAL K/FINAL M
1BC0 BATAK LETTER /A/SIMALUNGUN A/HA/SIMALUNGUN HA/MANDAILING HA/BA/KARO BA/PA/SIMALUNGUN PA/NA
1BCA BATAK LETTER /MANDAILING NA/WA/SIMALUNGUN WA/PAKPAK WA/GA/SIMALUNGUN GA/JA/DA/RA/SIMALUNGUN RA
1BD4 BATAK LETTER /MA/SIMALUNGUN MA/SOUTHERN TA/NORTHERN TA/SA/SIMALUNGUN SA/MANDAILING SA/YA
1BDC BATAK LETTER /SIMALUNGUN YA/NGA/LA/SIMALUNGUN LA/NYA/CA/NDA/MBA/I/U
1BE6 /BATAK SIGN TOMPI
1BE7 BATAK VOWEL SIGN /E/PAKPAK E/EE/I/KARO I/O/KARO O/U/U FOR SIMALUNGUN SA
1BF0 BATAK CONSONANT SIGN /NG/H
1BF2 BATAK /PANGOLAT/PANONGONAN
1BFC BATAK SYMBOL BINDU /NA METEK/PINARBORAS/JUDUL/PANGOLAT
1C00 LEPCHA LETTER /KA/KLA/KHA/GA/GLA/NGA/CA/CHA/JA/NYA/TA/THA/DA/NA/PA/PLA/PHA/FA/FLA/BA/BLA/MA
1C16 LEPCHA LETTER /MLA/TSA/TSHA/DZA/YA/RA/LA/HA/HLA/VA/SA/SHA/WA/A
1C24 LEPCHA SUBJOINED LETTER /YA/RA
1C26 LEPCHA VOWEL SIGN /AA/I/O/OO/U/UU/E
1C2D LEPCHA CONSONANT SIGN /K/M/L/N/P/R/T/NYIN-DO/KANG
1C36 LEPCHA SIGN /RAN/NUKTA
1C3B LEPCHA PUNCTUATION /TA-ROL/NYET THYOOM TA-ROL/CER-WA/TSHOOK CER-WA/TSHOOK
1C40 LEPCHA DIGIT /ZERO/ONE/TWO/THREE/FOUR/FIVE/SIX/SEVEN/EIGHT/NINE
1C4D LEPCHA LETTER /TTA/TTHA/DDA
1C50 OL CHIKI DIGIT /ZERO/ONE/TWO/THREE/FOUR/FIVE/SIX/SEVEN/EIGHT/NINE
1C5A OL CHIKI LETTER /LA/AT/AG/ANG/AL/LAA/AAK/AAJ/AAM/AAW/LI/IS/IH/INY/IR/LU/UC/UD/UNN/UY/LE/EP/EDD
1C71 OL CHIKI LETTER /EN/ERR/LO/OTT/OB/OV/OH
1C78 OL CHIKI /MU TTUDDAG/GAAHLAA TTUDDAAG/MU-GAAHLAA TTUDDAAG/RELAA/PHAARKAA/AHAD
1C7E OL CHIKI PUNCTUATION /MUCAAD/DOUBLE MUCAAD
1C80 CYRILLIC SMALL LETTER /ROUNDED VE/LONG-LEGGED DE/NARROW O/WIDE ES/TALL TE/THREE-LEGGED TE
1C86 CYRILLIC SMALL LETTER /TALL HARD SIGN/TALL YAT/UNBLENDED UK
1C90 GEORGIAN MTAVRULI CAPITAL LETTER /AN/BAN/GAN/DON/EN/VIN/ZEN/TAN/IN/KAN/LAS/MAN/NAR/ON/PAR/ZHAR
1CA0 GEORGIAN MTAVRULI CAPITAL LETTER /RAE/SAN/TAR/UN/PHAR/KHAR/GHAN/QAR/SHIN/CHIN/CAN/JIL/CIL/CHAR
1CAE GEORGIAN MTAVRULI CAPITAL LETTER /XAN/JHAN/HAE/HE/HIE/WE/HAR/HOE/FI/YN/ELIFI/TURNED GAN/AIN
1CBD GEORGIAN MTAVRULI CAPITAL LETTER /AEN/HARD SIGN/LABIAL SIGN
1CC0 SUNDANESE PUNCTUATION BINDU /SURYA/PANGLONG/PURNAMA/CAKRA/LEU SATANGA/KA SATANGA/DA SATANGA
1CC7 /SUNDANESE PUNCTUATION BINDU BA SATANGA
1CD0 VEDIC TONE /KARSHANA/SHARA/PRENKHA
1CD3 VEDIC SIGN /NIHSHVASA/YAJURVEDIC MIDLINE SVARITA
1CD5 VEDIC TONE YAJURVEDIC /AGGRAVATED INDEPENDENT SVARITA/INDEPENDENT SVARITA
1CD7 VEDIC TONE /YAJURVEDIC KATHAKA INDEPENDENT SVARITA/CANDRA BELOW
1CD9 VEDIC TONE /YAJURVEDIC KATHAKA INDEPENDENT SVARITA SCHROEDER/DOUBLE SVARITA/TRIPLE SVARITA
1CDC VEDIC TONE /KATHAKA ANUDATTA/DOT BELOW/TWO DOTS BELOW/THREE DOTS BELOW
1CE0 VEDIC TONE /RIGVEDIC KASHMIRI INDEPENDENT SVARITA/ATHARVAVEDIC INDEPENDENT SVARITA
1CE2 VEDIC SIGN /VISARGA SVARITA/VISARGA UDATTA/REVERSED VISARGA UDATTA/VISARGA ANUDATTA
1CE6 VEDIC SIGN /REVERSED VISARGA ANUDATTA/VISARGA UDATTA WITH TAIL/VISARGA ANUDATTA WITH TAIL
1CE9 VEDIC SIGN ANUSVARA /ANTARGOMUKHA/BAHIRGOMUKHA/VAMAGOMUKHA/VAMAGOMUKHA WITH TAIL
1CED VEDIC SIGN /TIRYAK/HEXIFORM LONG ANUSVARA/LONG ANUSVARA/RTHANG LONG ANUSVARA
1CF1 VEDIC SIGN /ANUSVARA UBHAYATO MUKHA/ARDHAVISARGA/ROTATED ARDHAVISARGA
1CF4 VEDIC /TONE CANDRA ABOVE/SIGN JIHVAMULIYA/SIGN UPADHMANIYA/SIGN ATIKRAMA/TONE RING ABOVE
1CF9 VEDIC /TONE DOUBLE RING ABOVE/SIGN DOUBLE ANUSVARA ANTARGOMUKHA"

end NoteSchema.Text.CharName
